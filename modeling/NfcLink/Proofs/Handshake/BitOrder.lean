import NfcLink.Proofs.Handshake.Alike
import NfcLink.Proofs.Handshake.Spi

/-!
# Bit order

A port that reverses the bits of every octet, with a controller that does the same, behaves
as a port and a controller that leave them as they are. What goes over the wire is reversed
octet by octet, and above the bus nobody sees a difference.
-/
namespace NfcLink

open NfcLink.Action Outcome

/-! ### The controller -/

namespace SpiDevice

/-- The controller behind a line of this bit order, given the one that leaves octets as they are. -/
def inOrder (order : BitOrder) (device : SpiDevice) : SpiDevice :=
  { device with bitOrder := order, wireWrites := device.wireWrites.map order.onWire }

variable {device : SpiDevice}

theorem shiftOut_bitOrder (data : Bytes) :
    (device.shiftOut data).2.bitOrder = device.bitOrder := by
  unfold shiftOut
  dsimp only
  split
  · split
    · split <;> rfl
    · rfl
  · rfl

theorem exchange_bitOrder (data : Bytes) :
    (device.exchange data).2.bitOrder = device.bitOrder := by
  unfold exchange
  split
  · rfl
  · dsimp only
    split
    · rfl
    · split <;> rfl

theorem shiftOut_inOrder (natural : device.bitOrder = .msbFirst) (order : BitOrder)
    (data : Bytes) :
    (device.inOrder order).shiftOut (order.onWire data) =
      ((device.shiftOut data).1, (device.shiftOut data).2.inOrder order) := by
  obtain ⟨bitOrder, configured, wireWrites, frames, output, replies⟩ := device
  obtain rfl : bitOrder = .msbFirst := natural
  cases data with
  | nil => simp [shiftOut, inOrder]
  | cons operation frame =>
    by_cases command : operation = SpiPort.dataWrite
    · cases replies with
      | nil => simp [shiftOut, inOrder, command]
      | cons reply replies => simp [shiftOut, inOrder, command]
    · simp [shiftOut, inOrder, command]

example : (SpiDevice.shiftOut (BitOrder.lsbFirst.onWire [SpiPort.dataWrite, 0xD4, 0x02])
    { bitOrder := .lsbFirst }).2 =
      { bitOrder := .lsbFirst, wireWrites := [[0x80, 0x2B, 0x40]], frames := [[0xD4, 0x02]] } := by
  decide

/-- An answer is turned round on the wire. The octet under the operation is zero in either order. -/
theorem exchange_inOrder (natural : device.bitOrder = .msbFirst) (order : BitOrder)
    (data : Bytes) :
    (device.inOrder order).exchange (order.onWire data) =
      ((device.exchange data).1.map order.onWire, (device.exchange data).2.inOrder order) := by
  obtain ⟨bitOrder, configured, wireWrites, frames, output, replies⟩ := device
  obtain rfl : bitOrder = .msbFirst := natural
  cases data with
  | nil => rfl
  | cons operation rest =>
    by_cases status : operation = SpiPort.statusRead
    · cases rest with
      | nil => simp [exchange, inOrder, status, withStatus, Except.map]
      | cons octet rest => simp [exchange, inOrder, status, withStatus, Except.map]
    · by_cases data : operation = SpiPort.dataRead
      · have other : ¬ SpiPort.dataRead = SpiPort.statusRead := by decide
        simp [exchange, inOrder, data, other, Except.map]
      · simp [exchange, inOrder, status, data, Except.map]

end SpiDevice

/-! ### The port -/

namespace SpiPort

variable {α β : Type} {order : BitOrder} {patience : Nat}

/-- The port of this bit order on a controller of the same, given the two that leave octets as they
are. -/
def inOrder (order : BitOrder) (port : SpiPort (Bench SpiDevice)) : SpiPort (Bench SpiDevice) :=
  { port with
    settings := { port.settings with bitOrder := order }
    bus := { port.bus with device := port.bus.device.inOrder order } }

/-- Neither side reverses anything on the one bus, and the other is the same in this bit order. -/
structure Reordered (order : BitOrder) (one other : SpiPort (Bench SpiDevice)) : Prop where
  port : one.settings.bitOrder = .msbFirst
  device : one.bus.device.bitOrder = .msbFirst
  image : other = one.inOrder order

/-- The two controllers take a step with corresponding ends. An answer may be turned round
between them, if what follows turns it back. -/
theorem agree_step_bind {one other : SpiPort (Bench SpiDevice)}
    {act image : SpiDevice → Except Error α × SpiDevice}
    {next nextImage : α → Action (SpiPort (Bench SpiDevice)) β} (turned : α → α)
    (reordered : Reordered order one other)
    (kept : (act one.bus.device).2.bitOrder = one.bus.device.bitOrder)
    (same : image (one.bus.device.inOrder order) =
      ((act one.bus.device).1.map turned, (act one.bus.device).2.inOrder order))
    (rest : ∀ answer, Agree (Reordered order) patience (next answer) (nextImage (turned answer))) :
    (((Bench.step act).on busPart >>= next) patience one).Alike (Reordered order)
      (((Bench.step image).on busPart >>= nextImage) patience other) := by
  obtain ⟨plain, natural, rfl⟩ := reordered
  have found : (one.inOrder order).bus.device = one.bus.device.inOrder order := rfl
  simp only [bind_apply, Action.on, Bench.step, Action.ofStep, busPart, found, same]
  rw [natural] at kept
  -- What is left on both sides depends on the step of the first controller alone.
  cases ends : act one.bus.device with
  | mk result device =>
    rw [ends] at kept
    cases result with
    | ok answer => exact rest answer _ _ ⟨plain, kept, rfl⟩
    | error error => exact .failed error ⟨plain, kept, rfl⟩

/-- What the controllers exchange is turned round on both ways, so the ports read the same. -/
theorem exchange_agree (bytes : Bytes) :
    Agree (Reordered order) patience (exchange bytes : Action (SpiPort (Bench SpiDevice)) Bytes)
      (exchange bytes) := by
  intro one other reordered
  obtain ⟨plain, natural, rfl⟩ := reordered
  unfold exchange
  rw [get_bind, get_bind]
  apply agree_step_bind order.onWire ⟨plain, natural, rfl⟩ (SpiDevice.exchange_bitOrder _)
  · rw [plain, BitOrder.onWire_msbFirst]
    exact SpiDevice.exchange_inOrder natural order bytes
  · intro answer
    have same : (one.inOrder order).settings.bitOrder.onWire (order.onWire answer) =
        one.settings.bitOrder.onWire answer := by
      rw [plain, BitOrder.onWire_msbFirst]
      exact order.onWire_onWire answer
    rw [same]
    exact agree_pure _

theorem ready_agree :
    Agree (Reordered order) patience (ready : Action (SpiPort (Bench SpiDevice)) Bool) ready :=
  (exchange_agree _).bind fun _ => agree_pure _

theorem send_agree (data : Bytes) :
    Agree (Reordered order) patience (Transport.send data : Action (SpiPort (Bench SpiDevice)) Unit)
      (Transport.send data) := by
  -- Nothing follows the step here, which the rule for steps has to be given as a `pure`.
  have sent : (Transport.send data : Action (SpiPort (Bench SpiDevice)) Unit) =
      get >>= fun port =>
        (SpiMaster.shiftOut (port.settings.bitOrder.onWire (dataWrite :: data))).on busPart >>=
          pure := by
    simp only [bind_pure]
    rfl
  rw [sent]
  rintro one other ⟨plain, natural, rfl⟩
  rw [get_bind, get_bind]
  apply agree_step_bind id ⟨plain, natural, rfl⟩ (SpiDevice.shiftOut_bitOrder _)
  · rw [plain, BitOrder.onWire_msbFirst, Except.map_id]
    exact SpiDevice.shiftOut_inOrder natural order _
  · exact agree_pure

theorem Reordered.note {one other : SpiPort (Bench SpiDevice)}
    (reordered : Reordered order one other) (notice : Notice) :
    Reordered order (Host.record notice one) (Host.record notice other) := by
  obtain ⟨plain, natural, rfl⟩ := reordered
  exact ⟨plain, natural, rfl⟩

theorem Reordered.sleep {one other : SpiPort (Bench SpiDevice)}
    (reordered : Reordered order one other) (milliseconds : Nat) :
    Reordered order (Host.sleep milliseconds one) (Host.sleep milliseconds other) := by
  obtain ⟨plain, natural, rfl⟩ := reordered
  have later : ∀ port : SpiPort (Bench SpiDevice), Host.sleep milliseconds port =
      { port with bus := port.bus.elapse milliseconds } := fun _ => rfl
  -- The kernel would compare the clocks if it had to find out by itself what a pause keeps.
  rw [later, later]
  refine ⟨plain, ?_, ?_⟩
  · rw [Bench.elapse_device]
    exact natural
  · obtain ⟨⟨device, clockNs, tickNs, journal⟩, settings, ackBudgetMs⟩ := one
    simp only [inOrder, Bench.elapse]

theorem transport_alike (order : BitOrder) (patience : Nat) :
    Transport.Alike (Reordered order) patience where
  kind _ := rfl
  ackBudgetMs := by
    rintro one other ⟨plain, natural, rfl⟩
    rfl
  noted := Reordered.note
  slept := Reordered.sleep
  called := by
    intro operation
    cases operation with
    | openBus =>
      rintro one other ⟨plain, natural, rfl⟩
      exact .done () ⟨plain, natural, rfl⟩
    | wake => exact ready_agree.bind fun _ => agree_pure ()
    | poll => exact ready_agree
    | send data => exact send_agree data
    | receive wanted timeoutMs =>
      apply (exchange_agree _).bind
      intro answer
      exact (agree_modify fun holds => holds.note _).bind fun _ => agree_pure _

end SpiPort

/-! ### Runs -/

/-- The port is asked for something, or the controller is given something to say. -/
inductive SpiStep where
  | perform (operation : HandshakeOperation)
  | rehearse (command : UInt8) (data : Bytes)
  | offer (bytes : Bytes)
  deriving DecidableEq, Repr

namespace SpiPort

variable {order : BitOrder} {patience : Nat}

/-- Bytes that can be read at once. -/
def offer (bytes : Bytes) (port : SpiPort (Bench SpiDevice)) : SpiPort (Bench SpiDevice) :=
  { port with bus := { port.bus with
    device := { port.bus.device with output := port.bus.device.output ++ bytes } } }

/-- The result of an operation is handed on, be it an answer or an error. -/
def take : SpiStep → Action (SpiPort (Bench SpiDevice))
    (List (Σ operation : HandshakeOperation, Except Error operation.Answer))
  | .perform operation => do
    let result ← operation.perform.attempt
    return [⟨operation, result⟩]
  | .rehearse command data => do
    Action.modify (setUp command data)
    return []
  | .offer bytes => do
    Action.modify (offer bytes)
    return []

def follow : List SpiStep → Action (SpiPort (Bench SpiDevice))
    (List (Σ operation : HandshakeOperation, Except Error operation.Answer))
  | [] => pure []
  | step :: steps => do
    let results ← take step
    let later ← follow steps
    return results ++ later

theorem Reordered.setUp {one other : SpiPort (Bench SpiDevice)}
    (reordered : Reordered order one other) (command : UInt8) (data : Bytes) :
    Reordered order (setUp command data one) (setUp command data other) := by
  obtain ⟨plain, natural, rfl⟩ := reordered
  exact ⟨plain, natural, rfl⟩

theorem Reordered.offer {one other : SpiPort (Bench SpiDevice)}
    (reordered : Reordered order one other) (bytes : Bytes) :
    Reordered order (offer bytes one) (offer bytes other) := by
  obtain ⟨plain, natural, rfl⟩ := reordered
  exact ⟨plain, natural, rfl⟩

theorem take_agree (step : SpiStep) :
    Agree (Reordered order) patience (take step) (take step) := by
  cases step with
  | perform operation =>
    apply ((transport_alike order patience).performed operation).attempt.bind
    intro result
    exact agree_pure _
  | rehearse command data =>
    exact (agree_modify fun holds => holds.setUp command data).bind fun _ => agree_pure _
  | offer bytes =>
    exact (agree_modify fun holds => holds.offer bytes).bind fun _ => agree_pure _

/-- Induction on the steps: one of them leaves ports that correspond to the rest. -/
theorem follow_agree (steps : List SpiStep) :
    Agree (Reordered order) patience (follow steps) (follow steps) := by
  induction steps with
  | nil => exact agree_pure []
  | cons step steps ih =>
    apply (take_agree step).bind
    intro results
    apply ih.bind
    intro later
    exact agree_pure (results ++ later)

/-- Port and controller of one bit order, not used yet. -/
def attached (settings : SpiSettings) (ackBudgetMs clockNs tickNs : Nat) (order : BitOrder) :
    SpiPort (Bench SpiDevice) where
  bus := { device := { bitOrder := order }, clockNs, tickNs }
  settings := { settings with bitOrder := order }
  ackBudgetMs

theorem attached_reordered (settings : SpiSettings) (ackBudgetMs clockNs tickNs : Nat)
    (order : BitOrder) :
    Reordered order (attached settings ackBudgetMs clockNs tickNs .msbFirst)
      (attached settings ackBudgetMs clockNs tickNs order) :=
  ⟨rfl, rfl, rfl⟩

/-- A port and a controller that reverse the bits of every octet give the results that two without
reversal give, the controller sees the same frames, and only what goes over the wire is
reversed. -/
theorem bit_order_is_invisible (settings : SpiSettings) (ackBudgetMs clockNs tickNs : Nat)
    (steps : List SpiStep) (patience : Nat) :
    (follow steps patience (attached settings ackBudgetMs clockNs tickNs .msbFirst)).Alike
      (fun natural reversed =>
        reversed.bus.device.frames = natural.bus.device.frames ∧
          reversed.bus.device.wireWrites =
            natural.bus.device.wireWrites.map (List.map Bytes.reverseBits))
      (follow steps patience (attached settings ackBudgetMs clockNs tickNs .lsbFirst)) := by
  have start := attached_reordered settings ackBudgetMs clockNs tickNs .lsbFirst
  apply (follow_agree steps _ _ start).mono
  rintro natural reversed ⟨plain, device, rfl⟩
  exact ⟨rfl, rfl⟩

end SpiPort

end NfcLink
