import NfcLink.Proofs.Handshake.Stream
import NfcLink.Proofs.Position.Bus
import NfcLink.Proofs.Position.Endpoint
import NfcLink.Proofs.Position.Handshake
import NfcLink.Sim.Spi

/-!
# Nothing is missed

Whatever comes in from below, an operation that takes it apart by position does what the
operation that takes it apart by pattern does, and that one never misses. It comes to an
answer or to an error wherever the waits come to an end.
-/
namespace NfcLink

open NfcLink.Action Outcome Positional

/-! ### Operations come to an answer or an error -/

section Concludes

variable {σ : Type} [Host σ] {patience : Nat}

theorem Transport.Returns.channel_concludes [Transport σ] {kept : σ → Prop}
    (returns : Transport.Returns kept patience) {channel : Channel σ}
    (holds : kept channel.transport) (operation : ChannelOperation) :
    operation.performByPosition.Concludes patience channel :=
  operation.perform_matches.concludes (returns.channelOperation operation channel holds)

theorem Transport.Returns.chip_concludes [Transport σ] {kept : σ → Prop}
    (returns : Transport.Returns kept patience) {channel : Channel σ}
    (holds : kept channel.transport) (operation : ChipOperation) :
    operation.performByPosition.Concludes patience channel :=
  operation.perform_matches.concludes (returns.chipOperation operation channel holds)

theorem Exhaustible.request_concludes [PeerLink σ] (link : Exhaustible σ) {endpoint : Endpoint σ}
    (fewer : link.Fewer (patience + 1) endpoint) (request : Request) :
    request.carryOutByPosition.Concludes (patience + 1) endpoint :=
  request.carryOut_matches.concludes (link.carryOut_stays patience request endpoint fewer)

theorem Returns.request_concludes [PeerLink σ] (returns : Returns σ patience) {limit : Nat}
    (enough : limit < patience) {endpoint : Endpoint σ} (limited : endpoint.Limited limit)
    (request : Request) : request.carryOutByPosition.Concludes patience endpoint :=
  request.carryOut_matches.concludes (returns.carryOut_limited enough request endpoint limited)

theorem I2cMaster.Returns.port_concludes [I2cMaster σ] {busy : Nat → σ → Prop}
    (returns : I2cMaster.Returns busy patience) {port : I2cPort σ}
    (fewer : port.Fewer busy patience) (operation : TransportOperation) :
    (I2cPort.performByPosition operation).Concludes patience port :=
  (I2cPort.perform_matches operation).concludes (returns.perform operation port fewer)

theorem SpiMaster.Returns.port_concludes [SpiMaster σ] {kept : σ → Prop}
    (returns : SpiMaster.Returns kept patience) (fullDuplex : SpiMaster.FullDuplex σ)
    {port : SpiPort σ} (holds : kept port.bus) (operation : TransportOperation) :
    (SpiPort.performByPosition operation).Concludes patience port :=
  (SpiPort.perform_matches fullDuplex operation).concludes (returns.perform operation port holds)

end Concludes

/-! ### Devices that end every call -/

theorem Bench.step_stays {δ α : Type} {act : δ → Except Error α × δ} {kept : δ → Prop}
    {patience : Nat} (keeps : ∀ device, kept device → kept (act device).2) :
    Stays (fun bench : Bench δ => kept bench.device) patience (Bench.step act) := by
  intro bench holds
  rw [ends_iff, Bench.step_ended]
  exact ⟨_, _, rfl, keeps bench.device holds⟩

theorem Bench.step_returns {δ α : Type} (act : δ → Except Error α × δ) (patience : Nat) :
    Stays (fun _ => True) patience (Bench.step act) :=
  fun bench _ => (ends_iff _ _).mpr ⟨_, _, Bench.step_ended act patience bench, True.intro⟩

theorem Bench.step_ne_waiting {δ α : Type} (act : δ → Except Error α × δ) (patience : Nat)
    (bench : Bench δ) : Bench.step act patience bench ≠ .waiting := by
  intro waits
  have ended := Bench.step_ended act patience bench
  rw [waits] at ended
  cases ended

theorem StreamDevice.Ready.of_same {device other : StreamDevice} (ready : device.Ready)
    (idle : other.busyPolls = device.busyPolls) (awake : other.alwaysBusy = device.alwaysBusy) :
    other.Ready := ⟨idle.trans ready.idle, awake.trans ready.awake⟩

/-- A device that is always ready ends every call and every wait for it. -/
theorem StreamDevice.returns (patience : Nat) :
    Transport.Returns (fun bench : Bench StreamDevice => bench.device.Ready) (patience + 1) where
  noted _ ready _ := ready
  slept bench ready milliseconds := by
    change (bench.elapse milliseconds).device.Ready
    rw [Bench.elapse_device]
    exact ready
  wake := Bench.step_stays fun _ ready => ready.of_same rfl rfl
  poll bench ready := by
    rw [StreamDevice.poll_eq ready]
    exact ready.of_same rfl rfl
  send data := by
    apply Bench.step_stays
    intro device ready
    unfold StreamDevice.send
    split
    · exact ready.of_same rfl rfl
    · exact ready.of_same rfl rfl
  receive := StreamDevice.receive_stays fun _ _ ready => ready.of_same rfl rfl
  ready := StreamDevice.awaitReady_stays (fun _ ready => ready)
    (fun _ _ ready => ready.of_same rfl rfl) 0

theorem PeerScript.returns (patience : Nat) : Returns (Bench PeerScript) patience where
  activated _ := Bench.step_ne_waiting _ patience
  read := Bench.step_ne_waiting _ patience
  written _ _ := Bench.step_ne_waiting _ patience

theorem SpiDevice.served_length (wanted : Nat) (output : Bytes) :
    (SpiDevice.served wanted output).length = wanted := by
  rw [SpiDevice.served, List.length_append, List.length_take, List.length_replicate]
  omega

theorem SpiDevice.exchange_length {data answer : Bytes} {device : SpiDevice}
    (does : (device.exchange data).1 = .ok answer) : answer.length = data.length := by
  cases data with
  | nil => cases does
  | cons first rest =>
    unfold SpiDevice.exchange at does
    dsimp only at does
    split at does
    · cases does
      cases rest <;> rfl
    · split at does
      · cases does
        rw [List.length_cons, BitOrder.onWire_length, served_length, List.length_cons]
      · cases does

theorem SpiDevice.fullDuplex : SpiMaster.FullDuplex (Bench SpiDevice) := by
  intro data patience bench answer after done
  have ended := Bench.step_ended (SpiDevice.exchange data) patience bench
  have same := Option.some.inj ((ended_eq_ok_iff.mpr done).symm.trans ended)
  exact exchange_length (congrArg Prod.fst same).symm

theorem SpiDevice.returns (patience : Nat) :
    SpiMaster.Returns (fun _ : Bench SpiDevice => True) patience where
  noted _ _ _ := True.intro
  setClock _ _ := Bench.step_returns _ patience
  shiftOut _ := Bench.step_returns _ patience
  exchange _ := Bench.step_returns _ patience

/-- A bus whose reads follow a script, with a timeout at its end. -/
structure I2cScript where
  answers : List (Except Error Bytes)

namespace I2cScript

def read (script : I2cScript) : Except Error Bytes × I2cScript :=
  match script.answers with
  | answer :: answers => (answer, { answers })
  | [] => (.error .timeout, script)

instance : I2cMaster (Bench I2cScript) where
  write _ _ := Bench.step fun script => (.ok (), script)
  read _ _ := Bench.step read

theorem length_of_read (script : I2cScript) :
    script.read.2.answers.length ≤ script.answers.length ∧
      ∀ raw, script.read.1 = .ok raw → script.read.2.answers.length < script.answers.length := by
  obtain ⟨_ | ⟨answer, answers⟩⟩ := script
  · exact ⟨Nat.le_refl _, fun _ answered => nomatch answered⟩
  · exact ⟨Nat.le_succ _, fun _ _ => Nat.lt_succ_self _⟩

theorem returns (patience : Nat) :
    I2cMaster.Returns (fun count (bench : Bench I2cScript) => bench.device.answers.length ≤ count)
      patience where
  noted within _ := within
  slept {count bench} within milliseconds := by
    change (bench.elapse milliseconds).device.answers.length ≤ count
    rw [Bench.elapse_device]
    exact within
  looked within := within
  write _ _ _ _ within := within
  read {count bench} within _ _ := by
    have ⟨most, fewer⟩ := length_of_read bench.device
    refine (ends_iff _ _).mpr ⟨_, _, Bench.step_ended read patience bench, ?_⟩
    refine ⟨_, Nat.le_trans most within, Nat.le_refl _, fun raw answered _ => ?_⟩
    exact Nat.lt_of_lt_of_le (fewer raw answered) within

end I2cScript

/-! ### All layers -/

/-- No operation misses, on any bytes and errors that come in from any layer below: frames and
headers are read as by pattern, and the operations of the handshake, the channel, the controller,
the link, the exchange and both buses do from every state what they do by pattern. What is left
is an answer, an error or a wait without an end, and the wait does have an end where the calls
below return and where what is waited for is bounded. -/
theorem no_operation_misses :
    ((∀ identifier header body,
        (Frame.encodeFromByPosition identifier header body).Gives
          (Frame.encodeFrom identifier header body)) ∧
      (∀ head, (Frame.declaredLengthByPosition head).Gives (Frame.declaredLength head)) ∧
      (∀ frame, (Frame.decodeByPosition frame).Gives (Frame.decode frame)) ∧
      (∀ frame buffer, Frame.fillByPosition frame buffer = some (Frame.fill frame buffer)) ∧
      ∀ pdu, (PduHeader.parseByPosition pdu).Gives (PduHeader.parse pdu)) ∧
    (∀ {σ : Type} [Host σ] [Transport σ],
      (∀ header body, Matches (Transport.putCommandByPosition header body)
        (Transport.putCommand header body : Action σ Unit)) ∧
      (∀ command timeoutMs capacity,
        Matches (Transport.takeResponseByPosition command timeoutMs capacity)
          (Transport.takeResponse command timeoutMs capacity : Action σ Bytes)) ∧
      (∀ operation : ChannelOperation, Matches operation.performByPosition
        (operation.perform : Action (Channel σ) (Option Bytes))) ∧
      (∀ operation : ChipOperation, Matches operation.performByPosition
        (operation.perform : Action (Channel σ) operation.Answer)) ∧
      ∀ {kept : σ → Prop} {patience : Nat}, Transport.Returns kept patience →
        ∀ channel : Channel σ, kept channel.transport →
          (∀ operation : ChannelOperation,
            operation.performByPosition.Concludes patience channel) ∧
          ∀ operation : ChipOperation,
            operation.performByPosition.Concludes patience channel) ∧
    (∀ {σ : Type} [Host σ] [PeerLink σ],
      (∀ request : Request, Matches request.carryOutByPosition
        (request.carryOut : Action (Endpoint σ) (Option Bytes))) ∧
      (∀ (link : Exhaustible σ) patience endpoint, link.Fewer (patience + 1) endpoint →
        ∀ request : Request, request.carryOutByPosition.Concludes (patience + 1) endpoint) ∧
      ∀ limit patience, Returns σ patience → limit < patience →
        ∀ endpoint : Endpoint σ, endpoint.Limited limit →
          ∀ request : Request, request.carryOutByPosition.Concludes patience endpoint) ∧
    (∀ {σ : Type} [Host σ] [I2cMaster σ],
      (∀ operation : TransportOperation, Matches (I2cPort.performByPosition operation)
        (operation.perform : Action (I2cPort σ) operation.Answer)) ∧
      ∀ {busy : Nat → σ → Prop} {patience : Nat}, I2cMaster.Returns busy patience →
        ∀ port : I2cPort σ, port.Fewer busy patience → ∀ operation : TransportOperation,
          (I2cPort.performByPosition operation).Concludes patience port) ∧
    ∀ {σ : Type} [Host σ] [SpiMaster σ],
      (∀ (operation : TransportOperation) patience (port : SpiPort σ),
        SpiPort.performByPosition operation patience port ≠ none) ∧
      (SpiMaster.FullDuplex σ → ∀ operation : TransportOperation,
        Matches (SpiPort.performByPosition operation)
          (operation.perform : Action (SpiPort σ) operation.Answer)) ∧
      ∀ {kept : σ → Prop} {patience : Nat}, SpiMaster.Returns kept patience →
        SpiMaster.FullDuplex σ → ∀ port : SpiPort σ, kept port.bus →
          ∀ operation : TransportOperation,
            (SpiPort.performByPosition operation).Concludes patience port := by
  refine ⟨⟨Frame.encodeFrom_gives, Frame.declaredLength_gives, Frame.decode_gives,
    Frame.fillByPosition_eq, PduHeader.parse_gives⟩, ?_, ?_, ?_, ?_⟩
  · intro σ _ _
    refine ⟨Transport.putCommand_matches, Transport.takeResponse_matches,
      ChannelOperation.perform_matches, ChipOperation.perform_matches, ?_⟩
    intro kept patience returns channel holds
    exact ⟨returns.channel_concludes holds, returns.chip_concludes holds⟩
  · intro σ _ _
    refine ⟨Request.carryOut_matches, ?_, ?_⟩
    · intro link patience endpoint fewer
      exact link.request_concludes fewer
    · intro limit patience returns enough endpoint limited
      exact returns.request_concludes enough limited
  · intro σ _ _
    exact ⟨I2cPort.perform_matches, fun returns port fewer => returns.port_concludes fewer⟩
  · intro σ _ _
    refine ⟨?_, SpiPort.perform_matches, ?_⟩
    -- A bus that is not full duplex still leaves a buffer of the right length.
    · intro operation patience port missed
      obtain ⟨act, same⟩ := SpiPort.performByPosition_total (σ := σ) operation
      rw [same patience port] at missed
      cases missed
    · intro kept patience returns fullDuplex port holds
      exact returns.port_concludes fullDuplex holds

/-- Heads that promise too much, lengths that wrap and cut-off PDUs. -/
theorem no_operation_misses_in_noise :
    (Frame.decodeByPosition [0x00, 0x00, 0xFF, 0xFF, 0x01, 0xD5]).Gives
      (.error (.invalidFrame (.lengthMismatch 262 6))) ∧
    ChipOperation.firmware.performByPosition.Concludes 1
      ({ transport :=
          { device := { queue := Ack.frame ++ [0x00, 0x00, 0xFF, 0x01, 0xFF, 0xD5] } } } :
        Channel (Bench StreamDevice)) ∧
    (Request.pull true 0).carryOutByPosition.Concludes 3
      ({ link := { inner := { device := { inbound := [.ok [0x11, 0x20], .ok [0x13]] } } } } :
        Endpoint (Observed (Bench PeerScript))) ∧
    (Request.pull true 0).carryOutByPosition.Concludes 1
      ({ link := { device := { inbound := [.ok [0x00, 0x00]] } }
         settings := { maxSymm := some 0 } } : Endpoint (Bench PeerScript)) ∧
    (I2cPort.performByPosition (.receive 5 0)).Concludes 3
      ({ bus := { device := { answers := [.ok [], .ok [0x01, 0xFF]] } }
         settings := {}, seen := 9 } : I2cPort (Bench I2cScript)) ∧
    (SpiPort.performByPosition (.receive 0 0)).Concludes 0
      ({ bus := { device := {} }, settings := {} } : SpiPort (Bench SpiDevice)) := by
  obtain ⟨⟨-, -, decodes, -, -⟩, exchanges, links, i2c, spi⟩ := no_operation_misses
  obtain ⟨-, -, -, -, onStream⟩ := exchanges (σ := Bench StreamDevice)
  obtain ⟨-, exhausted, -⟩ := links (σ := Observed (Bench PeerScript))
  obtain ⟨-, -, limited⟩ := links (σ := Bench PeerScript)
  obtain ⟨-, onI2c⟩ := i2c (σ := Bench I2cScript)
  obtain ⟨-, -, onSpi⟩ := spi (σ := Bench SpiDevice)
  refine ⟨decodes _, ?_, ?_, ?_, ?_, ?_⟩
  · exact (onStream (StreamDevice.returns 0) _ ⟨rfl, rfl⟩).2 .firmware
  · refine exhausted PeerScript.exhaustible 2 _ ?_ _
    exact ⟨2, by decide, Nat.le_refl 2⟩
  · refine limited 0 1 (PeerScript.returns 1) (by decide) _ ?_ _
    rfl
  · exact onI2c (I2cScript.returns 3) _ ⟨2, by decide, by decide⟩ _
  · exact onSpi (SpiDevice.returns 0) SpiDevice.fullDuplex _ True.intro _

end NfcLink
