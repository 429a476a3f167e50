import Mathlib.Algebra.GroupWithZero.Nat
import Mathlib.Data.Stream.Init
import NfcLink.Proofs.Handshake.Monitored

/-!
# Bytes in pieces

A serial port hands over what it has, in pieces of any size, and a read may come back with
nothing. A receive puts the pieces together: each read asks for what is still missing and
waits for what is left of the time. So nothing depends on where the stream is cut, as long
as the reads that bring it start in time.
-/
namespace NfcLink

open NfcLink.Action Outcome

/-! ### A line that is cut anywhere -/

/-- A line with all of its bytes and its clock settled beforehand. -/
structure PacedLine where
  buffer : Bytes
  /-- How many bytes each of the reads to come hands over at most. -/
  limits : Stream' Nat
  clockNs : Nat := 0
  /-- How far the clock moves from each of the looks to come to the next. -/
  ticks : Stream' Nat
  written : Bytes := []

namespace PacedLine

/-- The clock after so many looks. -/
def after (looks : Nat) (line : PacedLine) : PacedLine :=
  { line with
    clockNs := line.clockNs + (line.ticks.take looks).sum
    ticks := line.ticks.drop looks }

def read (wanted : Nat) (line : PacedLine) : Bytes × PacedLine :=
  let handed := min wanted line.limits.head
  (line.buffer.take handed,
    { line with buffer := line.buffer.drop handed, limits := line.limits.tail })

instance : Host PacedLine where
  now line := (line.clockNs, line.after 1)
  sleep milliseconds line :=
    { line with clockNs := line.clockNs + milliseconds * nanosecondsPerMillisecond }
  record _ line := line

instance : SerialLine PacedLine where
  setBaud _ := pure ()
  write data := Action.modify fun line => { line with written := line.written ++ data }
  read wanted _ := Action.ofStep fun line =>
    let (bytes, line) := line.read wanted
    (.ok bytes, line)
  buffered := do
    let line ← Action.get
    return line.buffer.length

/-- How often the clock is looked at from the first read on until another one starts, the look
before that one not counted: once before each read between them, and once after each of them that
brings nothing. -/
def looks (limits : Stream' Nat) (reads : Nat) : Nat :=
  ((limits.take reads).map fun limit => if limit = 0 then 2 else 1).sum

variable {line : PacedLine} {count : Nat}

theorem looks_succ (limits : Stream' Nat) (reads : Nat) :
    looks limits (reads + 1) = (if limits.head = 0 then 2 else 1) + looks limits.tail reads := by
  rw [looks, Stream'.take_succ, List.map_cons, List.sum_cons]
  rfl

theorem after_after (earlier later : Nat) (line : PacedLine) :
    (line.after earlier).after later = line.after (earlier + later) := by
  simp only [after, Stream'.take_add, List.sum_append, Nat.add_assoc, Stream'.drop_drop]

/-- Each of so many reads starts a millisecond before the deadline or earlier. -/
def Early (deadline : Deadline) (count : Nat) (line : PacedLine) : Prop :=
  ∀ instant, deadline.instant? = some instant → ∀ reads < count,
    (line.after (looks line.limits reads)).clockNs + nanosecondsPerMillisecond ≤ instant

/-- The clock after so many looks, if there is a deadline to look for. -/
def watched (deadline : Deadline) (looks : Nat) (line : PacedLine) : PacedLine :=
  if deadline.instant?.isSome then line.after looks else line

theorem watched_watched (deadline : Deadline) (earlier later : Nat) (line : PacedLine)
    (buffer : Bytes) (limits : Stream' Nat) :
    watched deadline later { line.watched deadline earlier with buffer, limits } =
      { line.watched deadline (earlier + later) with buffer, limits } := by
  unfold watched
  split
  · exact congrArg (fun line : PacedLine => { line with buffer, limits })
      (after_after earlier later line)
  · rfl

/-- The line after a round that asked for so many bytes. -/
def afterRound (deadline : Deadline) (missing : Nat) (line : PacedLine) : PacedLine :=
  { line.watched deadline (if line.limits.head = 0 then 2 else 1) with
    buffer := line.buffer.drop (min missing line.limits.head)
    limits := line.limits.tail }

/-- After a round the next reads start in time as before, at the looks that are left. -/
theorem Early.next {deadline : Deadline} (early : Early deadline (count + 1) line)
    (missing : Nat) : Early deadline count (line.afterRound deadline missing) := by
  intro instant limit reads less
  have later := early instant limit (reads + 1) (Nat.succ_lt_succ less)
  rw [looks_succ, ← after_after] at later
  unfold afterRound watched
  rw [limit]
  exact later

/-- Where another read starts in time, the look after one that brings nothing is in time too. -/
theorem Early.between {deadline : Deadline} (early : Early deadline (count + 1) line)
    (nothing : line.limits.head = 0) (more : 0 < count) {instant : Nat}
    (limit : deadline.instant? = some instant) : (line.after 1).clockNs < instant := by
  have next := early instant limit 1 (Nat.succ_lt_succ more)
  rw [looks_succ, if_pos nothing] at next
  have later : (line.after 1).clockNs ≤ (line.after (2 + looks line.limits.tail 0)).clockNs := by
    change _ + (line.ticks.take 1).sum ≤ _ + (line.ticks.take (1 + 1)).sum
    rw [Stream'.take_add, List.sum_append]
    omega
  exact Nat.lt_of_le_of_lt later (Nat.lt_of_lt_of_le (Nat.lt_add_of_pos_right (by decide)) next)

end PacedLine

namespace SerialPort

variable {port : SerialPort PacedLine} {deadline : Deadline} {count patience : Nat}

theorem remainingMs_early (patience : Nat) (early : port.bus.Early deadline (count + 1)) :
    ∃ remaining, deadline.remainingMs patience port =
      .done remaining { port with bus := port.bus.watched deadline 1 } ∧ remaining ≠ some 0 := by
  obtain ⟨none | instant⟩ := deadline
  · exact ⟨none, rfl, nofun⟩
  · refine ⟨_, rfl, ?_⟩
    have first : port.bus.clockNs + nanosecondsPerMillisecond ≤ instant :=
      early instant rfl 0 (Nat.succ_pos count)
    have left : 0 < (instant - port.bus.clockNs) / nanosecondsPerMillisecond :=
      Nat.div_pos (Nat.le_sub_of_add_le' first) (by decide)
    intro none
    exact absurd (Option.some.inj none) (Nat.ne_of_gt left)

theorem expired_early
    (early : ∀ instant, deadline.instant? = some instant → port.bus.clockNs < instant) :
    deadline.expired patience port =
      .done false { port with bus := port.bus.watched deadline 1 } := by
  obtain ⟨none | instant⟩ := deadline
  · rfl
  · have before : decide (instant ≤ port.bus.clockNs) = false :=
      decide_eq_false (Nat.not_le_of_lt (early instant rfl))
    change Outcome.done (decide (instant ≤ port.bus.clockNs)) _ = _
    rw [before]
    rfl

theorem read_watched (port : SerialPort PacedLine) (deadline : Deadline)
    (looks missing waitMs patience : Nat) :
    read missing waitMs patience { port with bus := port.bus.watched deadline looks } =
      .done (port.bus.buffer.take (min missing port.bus.limits.head))
        { port with bus := { port.bus.watched deadline looks with
          buffer := port.bus.buffer.drop (min missing port.bus.limits.head)
          limits := port.bus.limits.tail } } := by
  obtain ⟨none | instant⟩ := deadline
  · rfl
  · rfl

/-- A round that starts in time takes from the line what the read may have, however little that
is. -/
theorem gather_round {gathered : Bytes} {wanted missing rounds : Nat}
    (size : gathered.length + missing = wanted) (positive : 0 < missing)
    (held : missing ≤ port.bus.buffer.length) (early : port.bus.Early deadline (count + 1))
    (more : port.bus.limits.head = 0 → 0 < count) :
    gather wanted deadline (rounds + 1) gathered patience port =
      gather wanted deadline rounds
        (gathered ++ port.bus.buffer.take (min missing port.bus.limits.head)) patience
        { port with bus := port.bus.afterRound deadline missing } := by
  obtain ⟨remaining, looked, time⟩ := remainingMs_early patience early
  have lacking : gathered.length < wanted := by omega
  have asked : missing = wanted - gathered.length := by omega
  have reading := read_watched port deadline 1 missing (remaining.getD 0) patience
  by_cases nothing : port.bus.limits.head = 0
  · rw [nothing, Nat.min_zero, List.take_zero, asked] at reading
    have still : ∀ instant, deadline.instant? = some instant →
        (port.bus.watched deadline 1).clockNs < instant := by
      intro instant limit
      rw [PacedLine.watched, limit]
      exact early.between nothing (more nothing) limit
    rw [gather_of_nothing lacking looked time reading (expired_early still),
      PacedLine.watched_watched, PacedLine.afterRound, if_pos nothing, nothing, Nat.min_zero,
      List.take_zero, List.append_nil]
  · have brings : port.bus.buffer.take (min missing port.bus.limits.head) ≠ [] := by
      have some : 0 < min missing port.bus.limits.head :=
        Nat.lt_min.mpr ⟨positive, Nat.pos_of_ne_zero nothing⟩
      rw [← List.length_pos_iff, List.length_take]
      omega
    rw [PacedLine.afterRound, if_neg nothing]
    rw [asked] at reading brings ⊢
    exact gather_of_piece lacking looked time reading brings

/-- Induction on the reads that may be needed. -/
theorem gather_paced {gathered : Bytes} {wanted missing rounds : Nat}
    (size : gathered.length + missing = wanted) (held : missing ≤ port.bus.buffer.length)
    (reached : missing ≤ (port.bus.limits.take count).sum)
    (early : port.bus.Early deadline count) (enough : count ≤ rounds) :
    (gather wanted deadline rounds gathered patience port).Answers
      (gathered ++ port.bus.buffer.take missing) fun after =>
        after.bus.buffer = port.bus.buffer.drop missing := by
  induction count generalizing port gathered missing rounds with
  | zero =>
    obtain rfl : missing = 0 := Nat.le_zero.mp reached
    rw [gather_of_enough (Nat.le_of_eq size.symm), List.take_zero, List.append_nil]
    exact ⟨port, rfl, rfl⟩
  | succ count ih =>
    rcases Nat.eq_zero_or_pos missing with rfl | positive
    · rw [gather_of_enough (Nat.le_of_eq size.symm), List.take_zero, List.append_nil]
      exact ⟨port, rfl, rfl⟩
    obtain ⟨rounds, rfl⟩ :=
      Nat.exists_eq_add_of_le' (Nat.lt_of_lt_of_le (Nat.succ_pos count) enough)
    rw [Stream'.take_succ, List.sum_cons] at reached
    have more : port.bus.limits.head = 0 → 0 < count := by
      intro nothing
      rcases Nat.eq_zero_or_pos count with rfl | more
      · rw [nothing, Stream'.take_zero, List.sum_nil] at reached
        omega
      · exact more
    let handed := min missing port.bus.limits.head
    have part : handed ≤ missing := Nat.min_le_left _ _
    have whole : handed + (missing - handed) = missing := Nat.add_sub_cancel' part
    have rest : (gathered ++ port.bus.buffer.take handed).length + (missing - handed) = wanted := by
      rw [List.length_append, List.length_take_of_le (Nat.le_trans part held), Nat.add_assoc, whole,
        size]
    have left : missing - handed ≤ (port.bus.buffer.drop handed).length := by
      rw [List.length_drop]
      exact Nat.sub_le_sub_right held handed
    have later : missing - handed ≤ (port.bus.limits.tail.take count).sum := by omega
    have answers := @ih { port with bus := port.bus.afterRound deadline missing } _ _ _
      rest left later (early.next missing) (Nat.le_of_succ_le_succ enough)
    rw [List.append_assoc] at answers
    change Answers _ (gathered ++ (port.bus.buffer.take handed ++
      (port.bus.buffer.drop handed).take (missing - handed))) fun after : SerialPort PacedLine =>
        after.bus.buffer = (port.bus.buffer.drop handed).drop (missing - handed) at answers
    rw [← List.take_add, List.drop_drop, whole] at answers
    rw [gather_round size positive held early more]
    exact answers

/-- Whatever the pieces are, the first bytes of the line come in one after the other, and the rest
stays. -/
theorem receive_paced {wanted timeoutMs : Nat} (held : wanted ≤ port.bus.buffer.length)
    (reached : wanted ≤ (port.bus.limits.take count).sum)
    (timely : timeoutMs ≠ 0 → ∀ reads < count,
      (port.bus.ticks.take (1 + PacedLine.looks port.bus.limits reads)).sum +
        nanosecondsPerMillisecond ≤ timeoutMs * nanosecondsPerMillisecond)
    (enough : count ≤ patience) :
    (receive wanted timeoutMs patience port).Answers (port.bus.buffer.take wanted) fun after =>
      after.bus.buffer = port.bus.buffer.drop wanted := by
  have begins : ∃ deadline line,
      Deadline.after timeoutMs patience port = .done deadline { port with bus := line } ∧
      line.Early deadline count ∧ line.buffer = port.bus.buffer ∧
      line.limits = port.bus.limits := by
    by_cases endless : timeoutMs = 0
    · refine ⟨Deadline.never, port.bus, ?_, nofun, rfl, rfl⟩
      rw [Deadline.after, if_pos endless]
      rfl
    · refine ⟨⟨some (port.bus.clockNs + timeoutMs * nanosecondsPerMillisecond)⟩, port.bus.after 1,
        ?_, ?_, rfl, rfl⟩
      · rw [Deadline.after, if_neg endless]
        rfl
      · rintro _ ⟨rfl⟩ reads less
        rw [PacedLine.after_after]
        have time := timely endless reads less
        change port.bus.clockNs + _ + _ ≤ _
        rw [Nat.add_assoc]
        exact Nat.add_le_add_left time _
  obtain ⟨deadline, line, set, early, buffer, limits⟩ := begins
  rw [← buffer] at held ⊢
  rw [← limits] at reached
  obtain ⟨after, done, left⟩ := @gather_paced { port with bus := line } deadline count patience []
    wanted wanted patience (Nat.zero_add _) held reached early enough
  unfold receive
  rw [bind_of_done set, patience_bind, bind_of_done done, Action.note_bind, List.nil_append]
  rw [if_neg (Nat.not_lt_of_ge (Nat.le_of_eq (List.length_take_of_le held).symm))]
  exact ⟨_, rfl, left⟩

/-- The first bytes of a line come in whatever the pieces are, as long as the reads that bring them
start a millisecond before the deadline. On any line at all each read asks for what is missing, none
waits without end unless the receive does, and what is answered is all that is wanted. A receive
that would go on is seen up to any of its reads, because it ends where the line is cut. -/
theorem receive_joins_pieces (wanted timeoutMs patience : Nat) :
    (∀ (port : SerialPort PacedLine) count, wanted ≤ port.bus.buffer.length →
      wanted ≤ (port.bus.limits.take count).sum →
      (timeoutMs ≠ 0 → ∀ reads < count,
        (port.bus.ticks.take (1 + PacedLine.looks port.bus.limits reads)).sum +
          nanosecondsPerMillisecond ≤ timeoutMs * nanosecondsPerMillisecond) →
      count ≤ patience →
      (receive wanted timeoutMs patience port).Answers (port.bus.buffer.take wanted) fun after =>
        after.bus.buffer = port.bus.buffer.drop wanted) ∧
    ∀ {σ : Type} [Host σ] [SerialLine σ] (port : SerialPort (Monitored σ)),
      ((receive wanted timeoutMs patience port).IfEnds fun result after =>
        ∃ reads, after.bus.reads = port.bus.reads ++ reads ∧
          (∀ earlier read later, reads = earlier ++ read :: later →
            read.wanted + (LineRead.brought earlier).length = wanted ∧ 0 < read.wanted ∧
              (read.waitMs = 0 ↔ timeoutMs = 0)) ∧
          ∀ bytes, result = .ok bytes →
            bytes = LineRead.brought reads ∧ wanted ≤ bytes.length) ∧
      ∀ kept cut count, (∀ length waitMs, Stays kept patience (SerialLine.read length waitMs)) →
        (∀ state, kept state → kept (Host.now state).2) → Uncut kept cut count port →
        cut < count + patience →
        (receive wanted timeoutMs patience port).Ends fun _ _ => True :=
  ⟨fun _ _ held reached timely enough => receive_paced held reached timely enough,
    fun _ => ⟨receive_gathers, fun _ _ _ returns looked uncut enough =>
      receive_ends_of_cut returns looked uncut enough⟩⟩

/-- Three bytes in two pieces after an empty read, the last at the last moment. -/
theorem receive_joins_pieces_at_last_moment :
    let port : SerialPort PacedLine :=
      { settings := {}, bus := {
          buffer := [0x01, 0x02, 0x03, 0x04]
          limits := Stream'.cons 0 (Stream'.cons 2 (Stream'.const 1))
          ticks := Stream'.const 250000 } }
    3 ≤ port.bus.buffer.length ∧ 3 ≤ (port.bus.limits.take 3).sum ∧
      (receive 3 2 3 port).Answers [0x01, 0x02, 0x03] fun after => after.bus.buffer = [0x04] := by
  intro port
  have held : 3 ≤ port.bus.buffer.length := by decide
  have reached : 3 ≤ (port.bus.limits.take 3).sum := by decide
  have timely : ∀ reads < 3, (port.bus.ticks.take (1 + PacedLine.looks port.bus.limits reads)).sum +
      nanosecondsPerMillisecond ≤ 2 * nanosecondsPerMillisecond := by decide
  exact ⟨held, reached,
    (receive_joins_pieces 3 2 3).1 port 3 held reached (fun _ => timely) (Nat.le_refl 3)⟩

end SerialPort

end NfcLink
