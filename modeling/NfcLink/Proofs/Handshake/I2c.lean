import NfcLink.Proofs.Handshake.Conversation
import NfcLink.Sim.I2c

/-!
# Exchanges on I²C

A frame read in pieces is read again from its start for each of them. The port
counts what it has handed on and drops that much of every repetition, so that the
pieces join to the frame which the controller holds.
-/
namespace NfcLink

open NfcLink.Action Outcome

namespace I2cDevice

variable {device : I2cDevice}

theorem write_command (address : UInt8) {header body : Bytes} {reply : List Bytes}
    {replies : List (List Bytes)} (fits : (Frame.command header body).Fits)
    (stored : device.replies = reply :: replies) :
    device.write address (Frame.command header body).wire =
      (.ok (), { device with
        writes := device.writes ++ [(address, (Frame.command header body).wire)]
        frames := device.frames ++ reply
        replies }) := by
  simp only [write, Frame.decode_command fits, stored]

theorem write_unanswered (address : UInt8) (data : Bytes) (none : device.replies = []) :
    device.write address data =
      (.ok (), { device with writes := device.writes ++ [(address, data)] }) := by
  simp only [write, none]
  cases Frame.decode data with
  | ok frame => rfl
  | error error => rfl

/-- The frame stays pending until a read has covered it. -/
theorem read_pending {piece left : Bytes} {later : List Bytes} (willing : device.refusedReads = 0)
    (pending : device.frames = (piece ++ left) :: later) :
    device.read (piece.length + 1) =
      (.ok (0x01 :: piece), { device with
        frames := if left = [] then later else (piece ++ left) :: later }) := by
  have enough : piece.length - (piece ++ left).length = 0 := by
    rw [List.length_append]
    omega
  have plain : served piece.length (piece ++ left) = piece := by
    rw [served, List.take_left, enough, List.replicate_zero, List.append_nil]
  obtain ⟨writes, frames, replies, refusedReads⟩ := device
  obtain rfl : refusedReads = 0 := willing
  obtain rfl : frames = (piece ++ left) :: later := pending
  simp only [read, Nat.add_sub_cancel, plain]
  by_cases covered : left = []
  · rw [if_pos covered, if_pos (by simp [covered])]
  · have more : 0 < left.length := List.length_pos_iff.mpr covered
    have short : ¬ (piece ++ left).length ≤ piece.length := by
      rw [List.length_append]
      omega
    rw [if_neg covered, if_neg short]

end I2cDevice

namespace I2cPort

variable {port : I2cPort (Bench I2cDevice)} {patience : Nat}

theorem write_of_ok {data : Bytes} {device : I2cDevice}
    (does : port.bus.device.write port.settings.address data = (.ok (), device)) :
    write data patience port = .done () { port with bus := { port.bus with device } } :=
  on_of_done (Bench.step_of_ok does)

theorem read_of_ok {length : Nat} {answer : Bytes} {device : I2cDevice}
    (does : port.bus.device.read length = (.ok answer, device)) :
    read length patience port = .done answer { port with bus := { port.bus with device } } :=
  on_of_done (Bench.step_of_ok does)

/-- Whether a write is anything but a request to repeat a frame. -/
def isMessage (write : UInt8 × Bytes) : Bool := write.2 ≠ Ack.negative

/-- A controller that has these messages behind it, of which only the address that they went to is
known, got these command frames, has these frames to give and these replies in store. -/
structure HoldsSince (earlier : UInt8 → List (UInt8 × Bytes)) (heard frames : List Bytes)
    (replies : List (List Bytes)) (port : I2cPort (Bench I2cDevice)) : Prop where
  willing : port.bus.device.refusedReads = 0
  writes : port.bus.device.writes.filter isMessage =
    earlier port.settings.address ++ heard.map (port.settings.address, ·)
  frames : port.bus.device.frames = frames
  replies : port.bus.device.replies = replies

variable {earlier : UInt8 → List (UInt8 × Bytes)}
variable {heard frames later : List Bytes} {replies : List (List Bytes)}

theorem HoldsSince.look (holds : HoldsSince earlier heard frames replies port) :
    HoldsSince earlier heard frames replies (Host.now port).2 :=
  ⟨holds.willing, holds.writes, holds.frames, holds.replies⟩

theorem HoldsSince.note (holds : HoldsSince earlier heard frames replies port) (notice : Notice) :
    HoldsSince earlier heard frames replies (Host.record notice port) :=
  ⟨holds.willing, holds.writes, holds.frames, holds.replies⟩

/-- A negative acknowledgement is not a command, and brings out nothing. -/
theorem HoldsSince.again (holds : HoldsSince earlier heard frames [] port) :
    (write Ack.negative patience port).Answers () fun after =>
      HoldsSince earlier heard frames [] after ∧ after.seen = port.seen := by
  refine ⟨_, write_of_ok (I2cDevice.write_unanswered _ _ holds.replies), ⟨holds.willing, ?_,
    holds.frames, holds.replies⟩, rfl⟩
  change (port.bus.device.writes ++ [(port.settings.address, Ack.negative)]).filter isMessage = _
  have silent : isMessage (port.settings.address, Ack.negative) = false := by
    simp [isMessage]
  rw [List.filter_append, List.filter_cons_of_neg (by simp [silent]), holds.writes]
  exact List.append_nil _

theorem HoldsSince.send {header body : Bytes} {reply : List Bytes}
    (holds : HoldsSince earlier heard frames (reply :: replies) port)
    (fits : (Frame.command header body).Fits) :
    ((Transport.send (Frame.command header body).wire : Action (I2cPort (Bench I2cDevice)) Unit)
      patience port).Answers ()
        (HoldsSince earlier (heard ++ [(Frame.command header body).wire]) (frames ++ reply)
          replies) := by
  -- A command counts the identifier at least, which makes its frame longer.
  have longer : (Frame.command header body).wire ≠ Ack.negative := by
    intro same
    have size := congrArg List.length same
    rw [Frame.wire_length] at size
    simp [Ack.negative, Frame.overhead, Frame.counted, Frame.headLength] at size
    omega
  change ((write _) patience { port with seen := 0 }).Answers _ _
  refine ⟨_, write_of_ok (I2cDevice.write_command _ fits holds.replies), holds.willing, ?_, ?_, rfl⟩
  · change (port.bus.device.writes ++ [(port.settings.address, _)]).filter isMessage = _
    have message : isMessage (port.settings.address, (Frame.command header body).wire) = true := by
      simp [isMessage, longer]
    rw [List.filter_append, List.filter_cons_of_pos message, holds.writes, List.map_append,
      List.append_assoc]
    rfl
  · exact congrArg (· ++ reply) holds.frames

theorem HoldsSince.poll {frame : Bytes} (holds : HoldsSince earlier heard (frame :: later) [] port)
    (nonempty : frame ≠ []) :
    ((Transport.poll : Action (I2cPort (Bench I2cDevice)) Bool) patience port).Answers true
      fun after => HoldsSince earlier heard (frame :: later) [] after ∧ after.seen = 0 := by
  -- One octet of status is a read of no octet of the frame.
  have pending : port.bus.device.frames = ([] ++ frame) :: later := holds.frames
  have does : port.bus.device.read 1 = (.ok [0x01], { port.bus.device with
      frames := if frame = [] then later else frame :: later }) :=
    I2cDevice.read_pending holds.willing pending
  rw [if_neg nonempty] at does
  change ((attempt (read 1) >>= _) patience port).Answers _ _
  rw [bind_of_done (attempt_of_done (read_of_ok does))]
  have ready : statusReady [0x01] = true := by decide
  simp only [ready, if_true]
  exact ⟨_, rfl, ⟨holds.willing, holds.writes, rfl, holds.replies⟩, rfl⟩

/-! ### Reading in pieces -/

theorem HoldsSince.readFrom {handed piece left : Bytes}
    (holds : HoldsSince earlier heard ((handed ++ piece ++ left) :: later) [] port)
    (deadline : Deadline) (rounds : Nat) :
    (readFrom handed.length (handed.length + piece.length) deadline (rounds + 1) patience
      port).Answers piece fun after =>
        HoldsSince earlier heard
            (if left = [] then later else (handed ++ piece ++ left) :: later) [] after ∧
          after.seen = (handed ++ piece).length := by
  have does := I2cDevice.read_pending holds.willing holds.frames
  rw [List.length_append] at does
  unfold I2cPort.readFrom
  rw [bind_of_done (read_of_ok does)]
  have ready : statusReady (0x01 :: (handed ++ piece)) = true := by
    change (1 : UInt8).toNat.testBit 0 = true
    decide
  have long : ¬ (0x01 :: (handed ++ piece)).length < handed.length + piece.length + 1 := by
    simp
  have fresh : (0x01 :: (handed ++ piece)).drop (1 + handed.length) = piece := by
    rw [Nat.add_comm, List.drop_succ_cons, List.drop_left]
  simp only [ready, if_true, if_neg long, fresh]
  exact ⟨_, rfl, ⟨holds.willing, holds.writes, rfl, holds.replies⟩, by rw [List.length_append]⟩

theorem HoldsSince.receive {handed piece left : Bytes}
    (holds : HoldsSince earlier heard ((handed ++ piece ++ left) :: later) [] port)
    (seen : port.seen = handed.length) (timeoutMs patience : Nat) :
    (receive piece.length timeoutMs (patience + 1) port).Answers piece fun after =>
      HoldsSince earlier heard
            (if left = [] then later else (handed ++ piece ++ left) :: later) [] after ∧
        after.seen = (handed ++ piece).length := by
  -- With or without a request to repeat the frame, the read starts at its first byte.
  have reread : ∀ port : I2cPort (Bench I2cDevice),
      HoldsSince earlier heard ((handed ++ piece ++ left) :: later) [] port →
      ((do
        let deadline ← Deadline.after timeoutMs
        let rounds ← Action.patience
        I2cPort.readFrom handed.length (handed.length + piece.length) deadline rounds)
          (patience + 1) port).Answers piece fun after =>
        HoldsSince earlier heard
            (if left = [] then later else (handed ++ piece ++ left) :: later) [] after ∧
          after.seen = (handed ++ piece).length := by
    intro port holds
    obtain ⟨deadline, set⟩ := Deadline.after_answers timeoutMs holds holds.look
    apply answers_bind set
    intro state holds
    exact holds.readFrom deadline patience
  unfold I2cPort.receive
  rw [get_bind, seen]
  by_cases begun : handed.length > 0
  · simp only [if_pos begun]
    rw [Action.note_bind]
    exact answers_bind (holds.note _).again fun state again => reread state again.1
  · simp only [if_neg begun]
    exact reread port holds

/-! ### The conversation -/

theorem pause_answers (milliseconds : Nat) :
    (Host.pause milliseconds patience port).Answers () fun after =>
      after.settings = port.settings ∧ after.bus.device = port.bus.device := by
  unfold Host.pause
  split
  · exact ⟨port, rfl, rfl, rfl⟩
  · exact ⟨{ port with bus := port.bus.elapse milliseconds }, rfl, rfl,
      port.bus.elapse_device milliseconds⟩

/-- Sets up the reply to the next command. -/
def setUp (command : UInt8) (data : Bytes) (port : I2cPort (Bench I2cDevice)) :
    I2cPort (Bench I2cDevice) :=
  { port with bus := { port.bus with device := port.bus.device.rehearse command data } }

/-- The conversation with a controller that has these messages behind it. -/
def conversationSince (earlier : UInt8 → List (UInt8 × Bytes)) :
    Conversation (I2cPort (Bench I2cDevice)) where
  rehearse := setUp
  primed heard reply := HoldsSince earlier heard [] [reply]
  offers heard frames := HoldsSince earlier heard frames []
  reading heard handed left later port :=
    HoldsSince earlier heard ((handed ++ left) :: later) [] port ∧ port.seen = handed.length
  primes := by
    intro heard port holds command data
    refine ⟨holds.willing, holds.writes, holds.frames, ?_⟩
    simp [setUp, I2cDevice.rehearse, holds.replies]
  record_primed holds := holds.note
  record_offers holds := holds.note
  send holds _ _ _ fits := holds.send fits
  poll holds nonempty _ := holds.poll nonempty
  piece := by
    rintro heard handed piece left later port ⟨holds, seen⟩ more timeoutMs patience
    rw [← List.append_assoc] at holds
    have received := holds.receive seen timeoutMs patience
    rw [if_neg more] at received
    exact received
  final := by
    rintro heard handed piece later port ⟨holds, seen⟩ timeoutMs patience
    rw [← List.append_nil (handed ++ piece)] at holds
    have received := holds.receive seen timeoutMs patience
    rw [if_pos rfl] at received
    exact received.mono fun _ holds => holds.1

/-- A controller is woken by one octet. -/
def wakeUp (address : UInt8) : List (UInt8 × Bytes) := [(address, [0x00])]

def conversation : Conversation (I2cPort (Bench I2cDevice)) := conversationSince wakeUp

theorem ready_answers (fresh : port.bus.device = {}) :
    ((ClosedChannel.ready : Action (I2cPort (Bench I2cDevice)) Unit) patience port).Answers ()
      (conversation.offers [] []) := by
  unfold ClosedChannel.ready
  apply answers_bind (pause_answers port.settings.settleMs)
  rintro opened ⟨settings, device⟩
  have woken : ((Transport.wake : Action (I2cPort (Bench I2cDevice)) Unit) patience opened).Answers
      () (HoldsSince wakeUp [] [] []) := by
    apply answers_bind (pause_answers opened.settings.wakeMs)
    rintro awake ⟨-, same⟩
    rw [device, fresh] at same
    have unanswered : awake.bus.device.replies = [] := by rw [same]
    refine ⟨_, write_of_ok (I2cDevice.write_unanswered _ _ unanswered), ?_, ?_, ?_, ?_⟩
    · simp only [same]
    · simp [same, isMessage, wakeUp, Ack.negative]
    · simp only [same]
    · simp only [same]
  exact answers_bind woken fun state holds =>
    ⟨_, rfl, conversation.record_offers holds _⟩

end I2cPort

end NfcLink
