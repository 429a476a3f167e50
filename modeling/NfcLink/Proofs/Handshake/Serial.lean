import NfcLink.Proofs.Handshake.Conversation
import NfcLink.Sim.Serial

/-!
# Exchanges on a serial line

What the line holds is handed over in the first read that is long enough, so a
receive for which the bytes are there ends after one read, provided that its time
has not run out before it looked.
-/
namespace NfcLink

open NfcLink.Action Outcome

namespace SerialDevice

variable (device : SerialDevice)

theorem write_command {header body reply : Bytes} {replies : List Bytes}
    (fits : (Frame.command header body).Fits) (stored : device.replies = reply :: replies) :
    device.write (Frame.command header body).wire =
      (.ok (), { device with
        written := device.written ++ (Frame.command header body).wire
        buffer := device.buffer ++ reply
        replies }) := by
  simp only [write, Frame.decode_command fits, stored]

/-- The wake-up preamble is not a command, and brings out nothing. -/
theorem write_wakeUp :
    device.write SerialPort.wakeUp =
      (.ok (), { device with written := device.written ++ SerialPort.wakeUp }) := by
  have refused : Frame.decode SerialPort.wakeUp = .error (.invalidFrame (.truncatedHead 4)) := rfl
  simp only [write, refused]

end SerialDevice

namespace SerialPort

variable {port : SerialPort (Bench SerialDevice)} {patience : Nat}

theorem write_of_ok {data : Bytes} {device : SerialDevice}
    (does : port.bus.device.write data = (.ok (), device)) :
    write data patience port = .done () { port with bus := { port.bus with device } } :=
  on_of_done (Bench.step_of_ok does)

/-- A read of a line that holds something does not wait. -/
theorem read_of_nonempty (length timeoutMs : Nat) (nonempty : port.bus.device.buffer ≠ []) :
    read length timeoutMs patience port =
      .done (port.bus.device.buffer.take length)
        { port with bus := { port.bus with device := { port.bus.device with
          buffer := port.bus.device.buffer.drop length } } } := by
  have held : ¬ port.bus.device.buffer.isEmpty = true := by
    rw [List.isEmpty_iff]
    exact nonempty
  apply on_of_done
  change ((get >>= _) patience port.bus) = _
  simp only [get_bind, if_neg held]
  exact Bench.step_of_ok rfl

/-- A clock that stands still leaves the time of a receive untouched. -/
theorem remaining_of_still (still : port.bus.tickNs = 0) (timeoutMs : Nat) :
    ∃ deadline remaining,
      (Deadline.after timeoutMs : Action (SerialPort (Bench SerialDevice)) Deadline) patience port =
        .done deadline port ∧
      deadline.remainingMs patience port = .done remaining port ∧ remaining ≠ some 0 := by
  -- Two looks at a standing clock see one instant, so all of the time is left at the second.
  have looked : Host.now port = (port.bus.clockNs, port) := by
    obtain ⟨⟨device, clockNs, tickNs, journal⟩, settings, ackBudgetMs⟩ := port
    obtain rfl : tickNs = 0 := still
    rfl
  by_cases endless : timeoutMs = 0
  · refine ⟨Deadline.never, none, ?_, rfl, by simp⟩
    rw [Deadline.after, if_pos endless, pure_apply]
  · let instant := port.bus.clockNs + timeoutMs * nanosecondsPerMillisecond
    have left : (instant - port.bus.clockNs) / nanosecondsPerMillisecond = timeoutMs := by
      rw [Nat.add_sub_cancel_left]
      exact Nat.mul_div_cancel timeoutMs (by decide)
    refine ⟨⟨some instant⟩, some timeoutMs, ?_, ?_, by simpa using endless⟩
    · simp only [Deadline.after, if_neg endless, bind_apply, Host.clock, looked, pure_apply,
        instant]
    · simp only [Deadline.remainingMs, bind_apply, Host.clock, looked, pure_apply, left]

theorem gather_of_buffered {piece rest : Bytes} (buffer : port.bus.device.buffer = piece ++ rest)
    {deadline : Deadline} {remaining : Option Nat}
    (left : deadline.remainingMs patience port = .done remaining port) (time : remaining ≠ some 0)
    (rounds : Nat) :
    (gather piece.length deadline (rounds + 1) [] patience port).Answers piece fun after =>
      after = { port with bus := { port.bus with device := { port.bus.device with
        buffer := rest } } } := by
  unfold gather
  by_cases none : piece.length ≤ ([] : Bytes).length
  · obtain rfl : piece = [] := List.eq_nil_of_length_eq_zero (Nat.le_zero.mp none)
    rw [if_pos none]
    refine ⟨port, rfl, ?_⟩
    rw [← List.nil_append rest, ← buffer]
  · have nonempty : port.bus.device.buffer ≠ [] := by
      intro empty
      rw [buffer, List.append_eq_nil_iff] at empty
      exact none (by simp [empty.1])
    have got : ¬ piece.isEmpty = true := by
      intro empty
      exact none (by simp [List.isEmpty_iff.mp empty])
    have done : read piece.length (remaining.getD 0) patience port = _ :=
      read_of_nonempty piece.length (remaining.getD 0) nonempty
    rw [if_neg none]
    dsimp only
    rw [bind_of_done left]
    split
    · exact absurd rfl time
    · -- The first read gets all that is wanted, so the next round only finds it gathered.
      rw [buffer, List.take_left, List.drop_left] at done
      refine answers_bind ⟨_, done, rfl⟩ ?_
      rintro state rfl
      rw [if_neg got, List.nil_append]
      unfold gather
      rw [if_pos (Nat.le_refl _)]
      exact answers_pure rfl

/-- On a standing clock, a controller that has these octets behind it got these command frames, each
after a preamble, and these bytes of its answers are there. -/
structure HoldsSince (earlier : Bytes) (heard : List Bytes) (buffer : Bytes) (replies : List Bytes)
    (port : SerialPort (Bench SerialDevice)) : Prop where
  still : port.bus.tickNs = 0
  written : port.bus.device.written = earlier ++ (heard.map (wakeUp ++ ·)).flatten
  buffer : port.bus.device.buffer = buffer
  replies : port.bus.device.replies = replies

variable {earlier buffer : Bytes} {heard replies : List Bytes}

theorem HoldsSince.note (holds : HoldsSince earlier heard buffer replies port) (notice : Notice) :
    HoldsSince earlier heard buffer replies (Host.record notice port) :=
  ⟨holds.still, holds.written, holds.buffer, holds.replies⟩

theorem dropStale_answers :
    (dropStale patience port).Answers () fun after =>
      after.settings = port.settings ∧ after.ackBudgetMs = port.ackBudgetMs ∧
        after.bus.tickNs = port.bus.tickNs ∧
        after.bus.device = { port.bus.device with buffer := [] } := by
  have counted : (SerialLine.buffered : Action (Bench SerialDevice) Nat).on busPart patience port =
      .done port.bus.device.buffer.length port := rfl
  unfold dropStale
  rw [bind_of_done counted]
  by_cases pending : port.bus.device.buffer.length > 0
  · have nonempty : port.bus.device.buffer ≠ [] := List.length_pos_iff.mp pending
    rw [if_pos pending, bind_of_done (read_of_nonempty _ 1 nonempty)]
    refine ⟨_, rfl, rfl, rfl, rfl, ?_⟩
    rw [← List.drop_length]
    rfl
  · have empty : port.bus.device.buffer = [] :=
      List.eq_nil_of_length_eq_zero (Nat.eq_zero_of_not_pos pending)
    rw [if_neg pending]
    refine ⟨port, rfl, rfl, rfl, rfl, ?_⟩
    rw [← empty]

/-- Whatever the line held, it holds the reply and nothing else when the command is out. -/
theorem HoldsSince.send {header body reply : Bytes}
    (holds : HoldsSince earlier heard buffer (reply :: replies) port)
    (fits : (Frame.command header body).Fits) :
    ((Transport.send (Frame.command header body).wire :
      Action (SerialPort (Bench SerialDevice)) Unit) patience port).Answers ()
        (HoldsSince earlier (heard ++ [(Frame.command header body).wire]) reply replies) := by
  change ((dropStale >>= fun _ => write wakeUp >>= fun _ => write _) patience port).Answers _ _
  apply answers_bind dropStale_answers
  rintro emptied ⟨-, -, still, device⟩
  rw [bind_of_done (write_of_ok (emptied.bus.device.write_wakeUp))]
  have stored : emptied.bus.device.replies = reply :: replies := by
    rw [device]
    exact holds.replies
  refine ⟨_, write_of_ok (SerialDevice.write_command _ fits stored), ?_, ?_, ?_, rfl⟩
  · exact still.trans holds.still
  · simp only [device, holds.written, List.map_append, List.flatten_append, List.map_cons,
      List.map_nil, List.flatten_singleton, List.append_assoc]
  · simp only [device, List.nil_append]

theorem HoldsSince.receive {piece left : Bytes}
    (holds : HoldsSince earlier heard (piece ++ left) replies port) (timeoutMs patience : Nat) :
    (receive piece.length timeoutMs (patience + 1) port).Answers piece
      (HoldsSince earlier heard left replies) := by
  obtain ⟨deadline, remaining, set, time, some⟩ := remaining_of_still holds.still timeoutMs
  unfold SerialPort.receive
  rw [bind_of_done set, patience_bind]
  apply answers_bind (gather_of_buffered holds.buffer time some patience)
  rintro state rfl
  have enough : ¬ piece.length < piece.length := Nat.lt_irrefl _
  rw [Action.note_bind, if_neg enough]
  exact answers_pure ⟨holds.still, holds.written, rfl, holds.replies⟩

/-- Sets up the reply to the next command. -/
def setUp (command : UInt8) (data : Bytes) (port : SerialPort (Bench SerialDevice)) :
    SerialPort (Bench SerialDevice) :=
  { port with bus := { port.bus with device := port.bus.device.rehearse command data } }

/-- The conversation with a controller that was woken by a preamble. -/
def conversation : Conversation (SerialPort (Bench SerialDevice)) where
  rehearse := setUp
  primed heard reply := HoldsSince wakeUp heard [] [reply.flatten]
  offers heard frames := HoldsSince wakeUp heard frames.flatten []
  reading heard _ left later := HoldsSince wakeUp heard (left ++ later.flatten) []
  primes := by
    intro heard port holds command data
    refine ⟨holds.still, holds.written, holds.buffer, ?_⟩
    simp [setUp, SerialDevice.rehearse, holds.replies, Reply.full]
  record_primed holds := holds.note
  record_offers holds := holds.note
  send holds _ _ _ fits := holds.send fits
  poll holds _ _ := ⟨_, rfl, holds⟩
  piece := by
    intro heard handed piece left later port holds _ timeoutMs patience
    rw [List.append_assoc] at holds
    exact holds.receive timeoutMs patience
  final holds timeoutMs patience := holds.receive timeoutMs patience

/-- Whatever the line holds when the channel is started is dropped. -/
theorem ready_answers (stale : Bytes) (still : port.bus.tickNs = 0)
    (fresh : port.bus.device = { buffer := stale }) :
    ((ClosedChannel.ready : Action (SerialPort (Bench SerialDevice)) Unit) patience port).Answers ()
      (conversation.offers [] []) := by
  let opened : SerialPort (Bench SerialDevice) := { port with bus := { port.bus with
    device := { port.bus.device with baudRate := some port.settings.baudRate } } }
  have set : (Transport.openBus : Action (SerialPort (Bench SerialDevice)) Unit) patience port =
      .done () opened := rfl
  unfold ClosedChannel.ready
  rw [bind_of_done set]
  have woken : ((Transport.wake : Action (SerialPort (Bench SerialDevice)) Unit) patience
      opened).Answers () (HoldsSince wakeUp [] [] []) := by
    change ((write wakeUp >>= fun _ => dropStale) patience opened).Answers _ _
    rw [bind_of_done (write_of_ok (opened.bus.device.write_wakeUp))]
    apply dropStale_answers.mono
    rintro state ⟨-, -, same, device⟩
    constructor
    · exact same.trans still
    · simp [device, opened, fresh]
    · simp [device]
    · simp [device, opened, fresh]
  exact answers_bind woken fun state holds => ⟨_, rfl, holds.note _⟩

end SerialPort

end NfcLink
