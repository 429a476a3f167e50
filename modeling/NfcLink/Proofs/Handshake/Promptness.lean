import NfcLink.Proofs.Handshake.Chunks

/-!
# Bytes that are there already

A receive that finds its bytes on the line looks at the clock twice, once to set the deadline
and once before the read. At the second look it counts whole milliseconds, because that is what
it tells the line to wait at most, and a line that is told zero waits without end. So it gives
up when the last millisecond has begun, although the deadline is not reached and the bytes are
there. A timeout of one millisecond is over as soon as the clock has moved at all.
-/
namespace NfcLink

open NfcLink.Action Outcome

/-- How far the clock moves from a look to the next. -/
def Host.lapse {σ : Type} [Host σ] (state : σ) : Nat := (now (now state).2).1 - (now state).1

/-- A read brings what is asked, as long as the line holds that much. -/
structure SerialLine.HandsOver {σ : Type} [Host σ] [SerialLine σ] (holds : Bytes → σ → Prop)
    (patience : Nat) : Prop where
  looked : ∀ {bytes state}, holds bytes state → holds bytes (Host.now state).2
  noted : ∀ {bytes state}, holds bytes state → ∀ notice, holds bytes (Host.record notice state)
  read : ∀ {piece rest state}, holds (piece ++ rest) state → ∀ waitMs,
    (SerialLine.read piece.length waitMs patience state).Answers piece (holds rest)

namespace SerialPort

section Held

variable {σ : Type} [Host σ] [SerialLine σ] {patience wanted rounds : Nat} {deadline : Deadline}
variable {gathered piece rest : Bytes} {holds : Bytes → σ → Prop} {port between : SerialPort σ}

/-- A round that finds no millisecond left does not read. -/
theorem gather_of_late (missing : gathered.length < wanted)
    (looked : deadline.remainingMs patience port = .done (some 0) between) :
    gather wanted deadline (rounds + 1) gathered patience port = .done gathered between := by
  unfold gather
  rw [if_neg (Nat.not_le_of_lt missing)]
  dsimp only
  rw [bind_of_done looked]
  rfl

/-- One read brings all that is wanted. -/
theorem gather_of_held (line : SerialLine.HandsOver holds patience)
    (there : holds (piece ++ rest) between.bus) (nonempty : piece ≠ []) {remaining : Option Nat}
    (looked : deadline.remainingMs patience port = .done remaining between)
    (time : remaining ≠ some 0) :
    (gather piece.length deadline (rounds + 1) [] patience port).Answers piece fun after =>
      holds rest after.bus := by
  obtain ⟨bus, done, left⟩ := line.read there (remaining.getD 0)
  have reading : read (piece.length - ([] : Bytes).length) (remaining.getD 0) patience between =
      .done piece { between with bus } := on_of_done done
  rw [gather_of_piece (List.length_pos_iff.mpr nonempty) looked time reading nonempty,
    List.nil_append, gather_of_enough (Nat.le_refl _)]
  exact answers_pure left

omit [SerialLine σ] in
/-- A receive looks at the clock twice before it reads. -/
theorem remainingMs_after (port : SerialPort σ) (patience : Nat) {timeoutMs : Nat}
    (limited : 0 < timeoutMs) :
    ∃ deadline set remaining,
      Deadline.after timeoutMs patience port = .done deadline set ∧
      deadline.remainingMs patience set =
        .done (some remaining) { port with bus := (Host.now (Host.now port.bus).2).2 } ∧
      (remaining = 0 ↔ timeoutMs * nanosecondsPerMillisecond <
        Host.lapse port.bus + nanosecondsPerMillisecond) := by
  let first := (Host.now port.bus).1
  let second := (Host.now (Host.now port.bus).2).1
  have positive : 0 < nanosecondsPerMillisecond := by decide
  have whole : nanosecondsPerMillisecond ≤ timeoutMs * nanosecondsPerMillisecond :=
    Nat.le_mul_of_pos_left _ limited
  refine ⟨⟨some (first + timeoutMs * nanosecondsPerMillisecond)⟩,
    { port with bus := (Host.now port.bus).2 },
    (first + timeoutMs * nanosecondsPerMillisecond - second) / nanosecondsPerMillisecond,
    ?_, rfl, ?_⟩
  · rw [Deadline.after, if_neg (Nat.ne_of_gt limited)]
    rfl
  · rw [Nat.div_eq_zero_iff_lt positive]
    change _ ↔ _ < second - first + _
    omega

theorem receive_of_early (line : SerialLine.HandsOver holds (patience + 1))
    (there : holds (piece ++ rest) port.bus) (nonempty : piece ≠ []) {timeoutMs : Nat}
    (limited : 0 < timeoutMs) (early : Host.lapse port.bus + nanosecondsPerMillisecond ≤
      timeoutMs * nanosecondsPerMillisecond) :
    (receive piece.length timeoutMs (patience + 1) port).Answers piece fun after =>
      holds rest after.bus := by
  obtain ⟨deadline, set, remaining, begun, left, none⟩ :=
    remainingMs_after port (patience + 1) limited
  have time : some remaining ≠ some 0 :=
    fun zero => Nat.not_lt_of_ge early (none.mp (Option.some.inj zero))
  unfold receive
  rw [bind_of_done begun, patience_bind]
  apply answers_bind (gather_of_held line (line.looked (line.looked there)) nonempty left time)
  intro after held
  rw [note_bind, if_neg (Nat.lt_irrefl _)]
  exact answers_pure (line.noted held _)

theorem receive_of_late (missing : 0 < wanted) {timeoutMs : Nat} (limited : 0 < timeoutMs)
    (late : timeoutMs * nanosecondsPerMillisecond <
      Host.lapse port.bus + nanosecondsPerMillisecond) :
    receive wanted timeoutMs (patience + 1) port = .failed .timeout { port with
      bus := Host.recordAll [.bytesReceived .hsu [], .receiveTimedOut 0 wanted]
        (Host.now (Host.now port.bus).2).2 } := by
  obtain ⟨deadline, set, remaining, begun, left, none⟩ :=
    remainingMs_after port (patience + 1) limited
  rw [none.mpr late] at left
  have nothing : ([] : Bytes).length < wanted := missing
  unfold receive
  rw [bind_of_done begun, patience_bind, bind_of_done (gather_of_late nothing left), note_bind,
    if_pos nothing, note_bind]
  rfl

/-- Bytes that are there are received if the clock leaves a whole millisecond between the second
look at it and the deadline. If it leaves less than that, the line is not even asked for them. -/
theorem held_bytes_need_whole_millisecond
    (line : SerialLine.HandsOver holds (patience + 1)) (there : holds (piece ++ rest) port.bus)
    (nonempty : piece ≠ []) {timeoutMs : Nat} (limited : 0 < timeoutMs) :
    (Host.lapse port.bus + nanosecondsPerMillisecond ≤ timeoutMs * nanosecondsPerMillisecond →
      (receive piece.length timeoutMs (patience + 1) port).Answers piece fun after =>
        holds rest after.bus) ∧
    (timeoutMs * nanosecondsPerMillisecond < Host.lapse port.bus + nanosecondsPerMillisecond →
      receive piece.length timeoutMs (patience + 1) port = .failed .timeout { port with
        bus := Host.recordAll [.bytesReceived .hsu [], .receiveTimedOut 0 piece.length]
          (Host.now (Host.now port.bus).2).2 }) :=
  ⟨receive_of_early line there nonempty limited,
    receive_of_late (List.length_pos_iff.mpr nonempty) limited⟩

end Held

end SerialPort

/-! ### On a line with a clock of its own -/

namespace PacedLine

/-- These bytes come first, and no limit keeps back any of them. -/
def Holds (bytes : Bytes) (line : PacedLine) : Prop :=
  bytes <+: line.buffer ∧ ∀ reads, bytes.length ≤ line.limits.get reads

theorem handsOver (patience : Nat) : SerialLine.HandsOver Holds patience where
  looked holds := holds
  noted holds _ := holds
  read := by
    rintro piece rest line ⟨⟨more, buffer⟩, unlimited⟩ waitMs
    rw [List.length_append] at unlimited
    have handed : min piece.length line.limits.head = piece.length :=
      Nat.min_eq_left (Nat.le_trans (Nat.le_add_right _ _) (unlimited 0))
    have reading : line.read piece.length =
        (piece, { line with buffer := rest ++ more, limits := line.limits.tail }) := by
      rw [PacedLine.read, handed, ← buffer, List.append_assoc, List.take_left, List.drop_left]
    refine ⟨_, congrArg (fun read : Bytes × PacedLine => Outcome.done read.1 read.2) reading,
      List.prefix_append rest more, fun reads => ?_⟩
    exact Nat.le_trans (Nat.le_add_left _ _) (unlimited (reads + 1))

end PacedLine

namespace SerialPort

/-- Bytes that are there are received by any receive that is over before its time is. -/
def ReceivesInTime : Prop :=
  ∀ (port : SerialPort PacedLine) (wanted timeoutMs patience : Nat),
    0 < wanted → 0 < timeoutMs → wanted ≤ port.bus.buffer.length →
    (∀ reads, wanted ≤ port.bus.limits.get reads) →
    ((receive wanted timeoutMs (patience + 1) port).IfEnds fun _ after =>
      after.bus.clockNs < port.bus.clockNs + timeoutMs * nanosecondsPerMillisecond) →
    (receive wanted timeoutMs (patience + 1) port).Answers (port.bus.buffer.take wanted)
      fun _ => True

/-- Three bytes, and a clock that moves by so many nanoseconds from a look to the next. -/
def threeBytesPort (tickNs : Nat) : SerialPort PacedLine where
  settings := {}
  bus := {
    buffer := [0x00, 0x01, 0x02]
    limits := Stream'.const 3
    ticks := Stream'.const tickNs }

/-- Of one millisecond one nanosecond is gone at the second look. -/
theorem started_millisecond_is_lost : ¬ReceivesInTime := by
  intro inTime
  have late : 1 * nanosecondsPerMillisecond <
      Host.lapse (threeBytesPort 1).bus + nanosecondsPerMillisecond := by decide
  have times_out : receive 3 1 1 (threeBytesPort 1) = _ :=
    receive_of_late (by decide : 0 < 3) Nat.zero_lt_one late
  have answers := inTime (threeBytesPort 1) 3 1 0 (by decide) (by decide) (by decide)
    fun _ => Nat.le_refl 3
  rw [times_out] at answers
  obtain ⟨after, done, -⟩ := answers (by decide : 2 < 0 + 1 * nanosecondsPerMillisecond)
  cases done

/-- With six tenths of a millisecond from look to look, one millisecond is too little and two are
enough. -/
theorem held_bytes_need_second_millisecond :
    let port := threeBytesPort 600000
    [0x00, 0x01, 0x02] ≠ ([] : Bytes) ∧ PacedLine.Holds ([0x00, 0x01, 0x02] ++ []) port.bus ∧
      ((receive 3 1 1 port).Ends fun result after =>
        result = .error .timeout ∧ after.bus.buffer = [0x00, 0x01, 0x02]) ∧
      (receive 3 2 1 port).Answers [0x00, 0x01, 0x02] fun after =>
        PacedLine.Holds [] after.bus := by
  intro port
  have nonempty : [0x00, 0x01, 0x02] ≠ ([] : Bytes) := by decide
  have there : PacedLine.Holds ([0x00, 0x01, 0x02] ++ []) port.bus :=
    ⟨List.prefix_refl _, fun _ => Nat.le_refl 3⟩
  obtain ⟨-, late⟩ := held_bytes_need_whole_millisecond (PacedLine.handsOver 1) there nonempty
    Nat.zero_lt_one
  obtain ⟨early, -⟩ := held_bytes_need_whole_millisecond (PacedLine.handsOver 1) there nonempty
    Nat.zero_lt_two
  have timedOut : receive 3 1 1 port = _ := late (by decide)
  refine ⟨nonempty, there, ?_, early (by decide)⟩
  rw [timedOut]
  exact ⟨rfl, rfl⟩

end SerialPort

end NfcLink
