import NfcLink.Proofs.Handshake.Conversation
import NfcLink.Sim.Spi

/-!
# Exchanges on SPI

Port and simulated controller reverse the bits of every octet on the way out and on
the way in, or neither does. Either way the port reads the controller's output as
one stream, in the bit order of the host.
-/
namespace NfcLink

open NfcLink.Action Outcome

namespace SpiDevice

variable (device : SpiDevice)

theorem shiftOut_command (frame reply : Bytes) (replies : List Bytes)
    (released : device.replies = reply :: replies) :
    device.shiftOut (device.bitOrder.onWire (SpiPort.dataWrite :: frame)) =
      (.ok (), { device with
        wireWrites :=
          device.wireWrites ++ [device.bitOrder.onWire (SpiPort.dataWrite :: frame)]
        frames := device.frames ++ [frame]
        output := device.output ++ reply
        replies }) := by
  simp only [shiftOut, BitOrder.onWire_onWire, if_pos, released]

theorem exchange_status :
    device.exchange (device.bitOrder.onWire [SpiPort.statusRead, 0]) =
      (.ok [0, device.bitOrder.octet (if device.output.isEmpty then 0 else 1)], device) := by
  simp only [exchange, BitOrder.onWire, List.map_cons, List.map_nil, BitOrder.octet_octet, if_pos,
    withStatus]

theorem exchange_data (wanted : Nat) :
    device.exchange (device.bitOrder.onWire (SpiPort.dataRead :: List.replicate wanted 0)) =
      (.ok (0 :: device.bitOrder.onWire (served wanted device.output)),
        { device with output := device.output.drop wanted }) := by
  have other : ¬ SpiPort.dataRead = SpiPort.statusRead := by decide
  simp only [exchange, BitOrder.onWire, List.map_cons, BitOrder.octet_octet, if_neg other, if_pos,
    List.length_map, List.length_replicate]

theorem served_append (piece left : Bytes) : served piece.length (piece ++ left) = piece := by
  have enough : piece.length - (piece ++ left).length = 0 := by
    rw [List.length_append]
    omega
  rw [served, List.take_left, enough, List.replicate_zero, List.append_nil]

end SpiDevice

namespace SpiPort

variable {port : SpiPort (Bench SpiDevice)} {patience : Nat}

/-- A transfer answers what the controller put on the wire, in the bit order of the host. -/
theorem exchange_of_ok {bytes answer : Bytes} {device : SpiDevice}
    (does : port.bus.device.exchange (port.settings.bitOrder.onWire bytes) = (.ok answer, device)) :
    exchange bytes patience port =
      .done (port.settings.bitOrder.onWire answer)
        { port with bus := { port.bus with device } } := by
  unfold exchange
  rw [get_bind]
  exact bind_of_done (on_of_done (Bench.step_of_ok does))

/-- Both sides use one bit order, the controller saw these frames, and it has these bytes to give
and these replies in store. -/
structure Holds (heard : List Bytes) (output : Bytes) (replies : List Bytes)
    (port : SpiPort (Bench SpiDevice)) : Prop where
  order : port.bus.device.bitOrder = port.settings.bitOrder
  frames : port.bus.device.frames = heard
  output : port.bus.device.output = output
  replies : port.bus.device.replies = replies

variable {heard replies : List Bytes} {output : Bytes}

theorem Holds.note (holds : Holds heard output replies port) (notice : Notice) :
    Holds heard output replies (Host.record notice port) :=
  ⟨holds.order, holds.frames, holds.output, holds.replies⟩

theorem Holds.ready (holds : Holds heard output replies port) :
    (SpiPort.ready patience port).Answers (!output.isEmpty) (Holds heard output replies) := by
  have does := port.bus.device.exchange_status
  rw [holds.order, holds.output] at does
  unfold SpiPort.ready
  rw [bind_of_done (exchange_of_ok does)]
  -- The status transfer leaves the controller as it was.
  refine ⟨port, ?_, holds⟩
  simp only [BitOrder.onWire, List.map_cons, List.map_nil, BitOrder.octet_octet]
  cases output with
  | nil => rfl
  | cons octet rest =>
    have set : (1 : UInt8).toNat.testBit 0 = true := by decide
    simp only [List.isEmpty_cons, Bool.false_eq_true, if_false, set]
    rfl

theorem Holds.receive {piece left : Bytes} (holds : Holds heard (piece ++ left) replies port)
    (timeoutMs : Nat) :
    ((Transport.receive piece.length timeoutMs : Action (SpiPort (Bench SpiDevice)) Bytes) patience
      port).Answers piece (Holds heard left replies) := by
  have does := port.bus.device.exchange_data piece.length
  rw [holds.order, holds.output, SpiDevice.served_append, List.drop_left] at does
  change ((exchange _ >>= _) patience port).Answers _ _
  rw [bind_of_done (exchange_of_ok does)]
  -- What was reversed on the wire is reversed back by the port.
  have plain : (port.settings.bitOrder.onWire (0 :: port.settings.bitOrder.onWire piece)).drop 1 =
      piece := port.settings.bitOrder.onWire_onWire piece
  rw [plain, note_bind]
  exact ⟨_, rfl, rfl, holds.frames, rfl, holds.replies⟩

theorem Holds.send {frame reply : Bytes} (holds : Holds heard output (reply :: replies) port) :
    ((Transport.send frame : Action (SpiPort (Bench SpiDevice)) Unit) patience port).Answers ()
      (Holds (heard ++ [frame]) (output ++ reply) replies) := by
  have does := port.bus.device.shiftOut_command frame reply replies holds.replies
  rw [holds.order] at does
  change ((get >>= _) patience port).Answers _ _
  rw [get_bind]
  refine ⟨_, on_of_done (Bench.step_of_ok does), rfl, ?_, ?_, rfl⟩
  · exact congrArg (· ++ [frame]) holds.frames
  · exact congrArg (· ++ reply) holds.output

/-- Sets up the reply to the next command. -/
def setUp (command : UInt8) (data : Bytes) (port : SpiPort (Bench SpiDevice)) :
    SpiPort (Bench SpiDevice) :=
  { port with bus := { port.bus with device := port.bus.device.rehearse command data } }

def conversation : Conversation (SpiPort (Bench SpiDevice)) where
  rehearse := setUp
  primed heard reply := Holds heard [] [reply.flatten]
  offers heard frames := Holds heard frames.flatten []
  reading heard _ left later := Holds heard (left ++ later.flatten) []
  primes := by
    intro heard port holds command data
    refine ⟨holds.order, holds.frames, holds.output, ?_⟩
    simp [setUp, SpiDevice.rehearse, holds.replies, Reply.full]
  record_primed holds := holds.note
  record_offers holds := holds.note
  send holds _ _ _ _ := holds.send
  poll := by
    intro heard frame later port holds nonempty patience
    have some : (!(frame ++ later.flatten).isEmpty) = true := by
      cases frame with
      | nil => exact absurd rfl nonempty
      | cons octet rest => rfl
    exact some ▸ holds.ready
  piece := by
    intro heard handed piece left later port holds _ timeoutMs patience
    rw [List.append_assoc] at holds
    exact holds.receive timeoutMs
  final holds timeoutMs patience := holds.receive timeoutMs

theorem ready_answers (fresh : port.bus.device = { bitOrder := port.settings.bitOrder }) :
    ((ClosedChannel.ready : Action (SpiPort (Bench SpiDevice)) Unit) patience port).Answers ()
      (conversation.offers [] []) := by
  let clocked : SpiPort (Bench SpiDevice) := { port with bus := { port.bus with
    device := { port.bus.device with
      configured := some (port.settings.clockHz, clockMode) } } }
  have opened : (Transport.openBus : Action (SpiPort (Bench SpiDevice)) Unit) patience port =
      .done () clocked := rfl
  have holds : Holds [] [] [] clocked := by
    constructor
    · simp [clocked, fresh]
    · simp [clocked, fresh]
    · simp [clocked, fresh]
    · simp [clocked, fresh]
  unfold ClosedChannel.ready
  rw [bind_of_done opened]
  have woken : ((Transport.wake : Action (SpiPort (Bench SpiDevice)) Unit) patience clocked).Answers
      () (Holds [] [] []) := answers_bind holds.ready fun state holds => ⟨state, rfl, holds⟩
  exact answers_bind woken fun state holds => ⟨_, rfl, holds.note _⟩

end SpiPort

end NfcLink
