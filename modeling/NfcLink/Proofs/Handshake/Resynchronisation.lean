import NfcLink.Proofs.Handshake.Serial

/-!
# A serial line after a failed exchange

An exchange that broke off leaves bytes in the receive buffer, and nothing says
what they are: they may be the acknowledgement and the response of a command that
was given up. The next command drops them before it writes anything, so it starts
from an empty line whatever the line held.
-/
namespace NfcLink.SerialPort

open NfcLink.Action Outcome

/-- Puts the reply to the next command before those that are stored already. -/
def setUpNext (command : UInt8) (data : Bytes) (port : SerialPort (Bench SerialDevice)) :
    SerialPort (Bench SerialDevice) :=
  { port with bus := { port.bus with device := { port.bus.device with
    replies := Reply.full command data :: port.bus.device.replies } } }

/-- A conversation on a line that anything was written to before and that may hold anything when a
command is put. The replies to the commands after that are stored. -/
def resumed (earlier : Bytes) (stored : List Bytes) :
    Conversation (SerialPort (Bench SerialDevice)) where
  rehearse := setUpNext
  primed heard reply port := ∃ stale, HoldsSince earlier heard stale (reply.flatten :: stored) port
  offers heard frames := HoldsSince earlier heard frames.flatten stored
  reading heard _ left later := HoldsSince earlier heard (left ++ later.flatten) stored
  primes := by
    intro heard port holds command data
    refine ⟨[], holds.still, holds.written, holds.buffer, ?_⟩
    simp [setUpNext, holds.replies, Reply.full]
  record_primed := by
    rintro heard reply port ⟨stale, holds⟩ notice
    exact ⟨stale, holds.note notice⟩
  record_offers holds := holds.note
  send := by
    rintro heard reply port ⟨stale, holds⟩ header body patience fits
    exact holds.send fits
  poll holds _ _ := ⟨_, rfl, holds⟩
  piece := by
    intro heard handed piece left later port holds _ timeoutMs patience
    rw [List.append_assoc] at holds
    exact holds.receive timeoutMs patience
  final holds timeoutMs patience := holds.receive timeoutMs patience

/-- Whatever the receive buffer holds, an exchange answers the data of its own response, writes one
preamble and its frame, and leaves the line empty. -/
theorem ask_resynchronises (channel : Channel (SerialPort (Bench SerialDevice)))
    (still : channel.transport.bus.tickNs = 0) (command : UInt8) (header body data : Bytes)
    (later : List Bytes) (commandFits : (command :: header).length + body.length ≤ 254)
    (dataFits : data.length ≤ 253) (accepted : data.length ≤ channel.settings.capacity)
    (scripted : channel.transport.bus.device.replies = Reply.full command data :: later)
    (patience : Nat) :
    ∃ frame, Frame.encode (command :: header) body = .ok frame ∧
      (Channel.ask (command :: header) body (patience + 1) channel).Answers data fun after =>
        after.transport.bus.device.buffer = [] ∧
          after.transport.bus.device.replies = later ∧
          after.transport.bus.device.written =
            channel.transport.bus.device.written ++ wakeUp ++ frame := by
  let device := channel.transport.bus.device
  have within : (command :: header).length + body.length < Frame.maxCounted :=
    Nat.lt_succ_of_le commandFits
  have primed : (resumed device.written later).primed []
      [Ack.frame, Reply.response command data] channel.transport := by
    refine ⟨device.buffer, still, ?_, rfl, ?_⟩
    · simp [device]
    · simp [scripted, Reply.full]
  refine ⟨_, Frame.encode_of_fits _ body within, ?_⟩
  apply ((resumed device.written later).ask_answers channel command header body data within
    (Nat.add_le_add_right dataFits 2) accepted primed).mono
  rintro after ⟨-, holds⟩
  refine ⟨holds.buffer, holds.replies, ?_⟩
  rw [holds.written]
  simp [device]

/-- The line holds an acknowledgement and a response to the very command that is put, left over
with other data. -/
theorem ask_resynchronises_past_own_reply :
    let channel : Channel (SerialPort (Bench SerialDevice)) :=
      { transport := { settings := {}, bus := { device := {
          buffer := Reply.full 0x02 [0x00]
          replies := [Reply.full 0x02 [0x32, 0x01]] } } } }
    channel.transport.bus.tickNs = 0 ∧ ([0x02] : Bytes).length + ([] : Bytes).length ≤ 254 ∧
      ([0x32, 0x01] : Bytes).length ≤ 253 ∧
      ([0x32, 0x01] : Bytes).length ≤ channel.settings.capacity ∧
      channel.transport.bus.device.replies = [Reply.full 0x02 [0x32, 0x01]] ∧
      (Channel.ask [0x02] [] 1 channel).Answers [0x32, 0x01] fun after =>
        after.transport.bus.device.buffer = [] ∧
          after.transport.bus.device.written =
            [0x55, 0x00, 0x00, 0x55, 0x00, 0x00, 0xFF, 0x02, 0xFE, 0xD4, 0x02, 0x2A, 0x00] := by
  intro channel
  have still : channel.transport.bus.tickNs = 0 := rfl
  have commandFits : ([0x02] : Bytes).length + ([] : Bytes).length ≤ 254 := by decide
  have dataFits : ([0x32, 0x01] : Bytes).length ≤ 253 := by decide
  have accepted : ([0x32, 0x01] : Bytes).length ≤ channel.settings.capacity := by decide
  obtain ⟨frame, encoded, answers⟩ := ask_resynchronises channel still 0x02 [] [] [0x32, 0x01] []
    commandFits dataFits accepted rfl 0
  refine ⟨still, commandFits, dataFits, accepted, rfl, answers.mono ?_⟩
  rintro after ⟨buffer, -, written⟩
  have wire : frame = [0x00, 0x00, 0xFF, 0x02, 0xFE, 0xD4, 0x02, 0x2A, 0x00] :=
    Except.ok.inj (encoded.symm.trans rfl)
  rw [wire] at written
  exact ⟨buffer, written⟩

end NfcLink.SerialPort
