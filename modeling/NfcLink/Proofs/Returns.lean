import NfcLink.Bus.I2c
import NfcLink.Bus.Spi
import NfcLink.Chip
import NfcLink.Proofs.Handshake.Pairing
import NfcLink.Proofs.Llcp.Endings
import NfcLink.Proofs.Llcp.SymmLimit
import NfcLink.Proofs.Snep.Session

/-!
# What can keep an operation

An operation is kept by a call on the layer below that does not come to an end, or by one of
its own waits. A wait for the controller with a budget polls so often and no more, and a wait
for a PDU takes one frame from the link in each round. So where the calls end, where the
controller ends a wait that was given no budget, and where the peer has only so much to say
or the endpoint answers only so many SYMMs, everything ends, with an answer or with an error.
-/
namespace NfcLink

open NfcLink.Action Outcome

/-! ### Operations as data -/

/-- What can be asked of a transport. -/
inductive TransportOperation where
  | openBus
  | wake
  | poll
  | send (data : Bytes)
  | receive (wanted timeoutMs : Nat)
  deriving DecidableEq, Repr

namespace TransportOperation

def Answer : TransportOperation → Type
  | poll => Bool
  | receive _ _ => Bytes
  | _ => Unit

def perform {σ : Type} [Transport σ] : (operation : TransportOperation) → Action σ operation.Answer
  | openBus => Transport.openBus
  | wake => Transport.wake
  | poll => Transport.poll
  | send data => Transport.send data
  | receive wanted timeoutMs => Transport.receive wanted timeoutMs

end TransportOperation

/-- What can be asked of the controller. -/
inductive ChipOperation where
  | firmware
  | samConfiguration
  | switchField (avoidCollision on : Bool)
  | limitRetries (limit : UInt8)
  | release (target : UInt8)
  | initAsTarget (command : Bytes) (timeoutMs : Nat)
  | getData
  | setData (header body : Bytes)
  | activate (timeoutMs : Nat)
  deriving DecidableEq, Repr

namespace ChipOperation

def Answer : ChipOperation → Type
  | firmware => Firmware
  | initAsTarget _ _ => Bytes
  | getData => Bytes
  | _ => Unit

def perform {σ : Type} [Host σ] [Transport σ] :
    (operation : ChipOperation) → Action (Channel σ) operation.Answer
  | firmware => Chip.firmware
  | samConfiguration => Chip.samConfiguration
  | switchField avoidCollision on => Chip.switchField avoidCollision on
  | limitRetries limit => Chip.limitRetries limit
  | release target => Chip.release target
  | initAsTarget command timeoutMs => Chip.initAsTarget command timeoutMs
  | getData => Chip.getData
  | setData header body => Chip.setData header body
  | activate timeoutMs => Chip.activate timeoutMs

end ChipOperation

/-! ### Buses -/

/-- Each call on the bus comes to an end, and the controller is found busy this often at most. -/
structure I2cMaster.Returns {σ : Type} [Host σ] [I2cMaster σ] (busy : Nat → σ → Prop)
    (patience : Nat) : Prop where
  noted : ∀ {count state}, busy count state → ∀ notice, busy count (Host.record notice state)
  slept : ∀ {count state}, busy count state → ∀ milliseconds,
    busy count (Host.sleep milliseconds state)
  looked : ∀ {count state}, busy count state → busy count (Host.now state).2
  write : ∀ count address data, Stays (busy count) patience (I2cMaster.write address data)
  read : ∀ {count state}, busy count state → ∀ address length,
    ((I2cMaster.read address length : Action σ Bytes) patience state).Ends fun result after =>
      ∃ left, left ≤ count ∧ busy left after ∧
        ∀ raw, result = .ok raw → I2cPort.statusReady raw = false → left < count

namespace I2cPort

variable {σ : Type}

/-- The controller is found busy fewer times than this. -/
def Fewer (busy : Nat → σ → Prop) (bound : Nat) (port : I2cPort σ) : Prop :=
  ∃ count, count < bound ∧ busy count port.bus

theorem Fewer.mono {busy : Nat → σ → Prop} {bound more : Nat} {port : I2cPort σ}
    (fewer : Fewer busy bound port) (le : bound ≤ more) : Fewer busy more port := by
  obtain ⟨count, less, holds⟩ := fewer
  exact ⟨count, Nat.lt_of_lt_of_le less le, holds⟩

end I2cPort

namespace I2cMaster.Returns

open I2cPort

variable {σ : Type} [Host σ] [I2cMaster σ] {busy : Nat → σ → Prop} {patience bound : Nat}
  (returns : I2cMaster.Returns busy patience)
include returns

theorem note (notice : Notice) : Stays (Fewer busy bound) patience (Host.note notice) := by
  rintro port ⟨count, less, holds⟩
  exact ⟨count, less, returns.noted holds notice⟩

theorem pause (milliseconds : Nat) :
    Stays (Fewer busy bound) patience (Host.pause milliseconds) := by
  unfold Host.pause
  apply stays_ite (stays_pure _)
  rintro port ⟨count, less, holds⟩
  exact ⟨count, less, returns.slept holds milliseconds⟩

theorem clock : Stays (Fewer busy bound) patience Host.clock := by
  rintro port ⟨count, less, holds⟩
  exact ⟨count, less, returns.looked holds⟩

theorem writePort (data : Bytes) :
    Stays (Fewer busy bound) patience (I2cPort.write data) := by
  rintro port ⟨count, less, holds⟩
  apply ends_on
  apply (returns.write count port.settings.address data port.bus holds).mono
  intro result after holds
  exact ⟨count, less, holds⟩

theorem readPort (length : Nat) {port : I2cPort σ} (fewer : Fewer busy (bound + 1) port) :
    (I2cPort.read length patience port).Ends fun result after =>
      Fewer busy (bound + 1) after ∧
        ∀ raw, result = .ok raw → statusReady raw = false → Fewer busy bound after := by
  obtain ⟨count, less, holds⟩ := fewer
  apply ends_on
  apply (returns.read holds port.settings.address length).mono
  rintro result after ⟨left, most, holds, decreases⟩
  refine ⟨⟨left, Nat.lt_of_le_of_lt most less, holds⟩, fun raw answered unready => ?_⟩
  have fewer : left < count := decreases raw answered unready
  exact ⟨left, Nat.lt_of_lt_of_le fewer (Nat.le_of_lt_succ less), holds⟩

/-- Every round but the last finds the controller busy. -/
theorem readFrom (seen total : Nat) (deadline : Deadline) {rounds : Nat} (le : rounds ≤ bound)
    {port : I2cPort σ} (fewer : Fewer busy rounds port) :
    (I2cPort.readFrom seen total deadline rounds patience port).Ends fun _ after =>
      Fewer busy bound after := by
  induction rounds generalizing port with
  | zero =>
    obtain ⟨count, less, -⟩ := fewer
    exact absurd less (Nat.not_lt_zero count)
  | succ rounds ih =>
    unfold I2cPort.readFrom
    apply ends_then (returns.readPort _ fewer)
    · exact fun _ _ holds => holds.1.mono le
    rintro raw read ⟨fewer, unready⟩
    -- A ready controller ends the wait; a busy one has used up one of its times.
    split
    · have kept := fewer.mono le
      split
      · exact stays_bind (returns.note _) (fun _ => stays_fail _) read kept
      · refine stays_bind (returns.note _) (fun _ => ?_) read kept
        exact fun _ holds => holds
    next status =>
      have fewer := unready raw rfl (Bool.eq_false_iff.mpr status)
      have less : rounds ≤ bound := Nat.le_of_succ_le le
      apply ends_then (Deadline.expired_stays returns.clock deadline read fewer)
      · exact fun _ _ fewer => fewer.mono less
      intro passed looked fewer
      split
      · exact fewer.mono less
      · apply ends_then (returns.pause _ looked fewer)
        · exact fun _ _ fewer => fewer.mono less
        exact fun _ paused fewer => ih less fewer

theorem receive (wanted timeoutMs : Nat) :
    Stays (Fewer busy patience) patience (I2cPort.receive wanted timeoutMs) := by
  intro port fewer
  have rest : Stays (Fewer busy patience) patience (do
      let deadline ← Deadline.after timeoutMs
      let rounds ← Action.patience
      I2cPort.readFrom port.seen (port.seen + wanted) deadline rounds) := by
    exact stays_bind (Deadline.after_stays returns.clock timeoutMs) fun deadline _ fewer =>
      returns.readFrom port.seen _ deadline (Nat.le_refl patience) fewer
  refine stays_ite ?_ rest port fewer
  exact stays_bind (returns.note _) fun _ => stays_bind (returns.writePort _) fun _ => rest

/-- An observer who stays for more rounds than the controller is busy sees the end. -/
theorem perform (operation : TransportOperation) :
    Stays (Fewer busy patience) patience
      (operation.perform : Action (I2cPort σ) operation.Answer) := by
  have forgets (seen : Nat) : Stays (Fewer busy patience) patience
      (setSeen seen : Action (I2cPort σ) Unit) := fun _ fewer => fewer
  cases operation with
  | openBus => exact fun port fewer => returns.pause port.settings.settleMs port fewer
  | wake =>
    intro port fewer
    exact stays_bind (returns.pause port.settings.wakeMs) (fun _ => returns.writePort _) port fewer
  | poll =>
    have reads : Stays (Fewer busy patience) patience
        (I2cPort.read 1 : Action (I2cPort σ) Bytes) := by
      rintro port ⟨count, less, holds⟩
      have fewer : Fewer busy (count + 1) port := ⟨count, Nat.lt_succ_self count, holds⟩
      exact (returns.readPort 1 fewer).mono fun _ _ kept => kept.1.mono less
    apply stays_bind (stays_attempt reads)
    intro answer
    cases answer with
    | ok raw =>
      exact stays_ite (stays_bind (forgets 0) fun _ => stays_pure _) (stays_pure _)
    | error error => exact stays_bind (returns.note _) fun _ => stays_pure _
  | send data => exact stays_bind (forgets 0) fun _ => returns.writePort data
  | receive wanted timeoutMs => exact returns.receive wanted timeoutMs

end I2cMaster.Returns

/-- From the states that are kept, each call on the bus comes to an end in such a state. -/
structure SpiMaster.Returns {σ : Type} [Host σ] [SpiMaster σ] (kept : σ → Prop) (patience : Nat) :
    Prop where
  noted : ∀ state, kept state → ∀ notice, kept (Host.record notice state)
  setClock : ∀ clockHz mode, Stays kept patience (SpiMaster.setClock clockHz mode)
  shiftOut : ∀ data, Stays kept patience (SpiMaster.shiftOut data)
  exchange : ∀ data, Stays kept patience (SpiMaster.exchange data)

namespace SpiMaster.Returns

variable {σ : Type} [Host σ] [SpiMaster σ] {kept : σ → Prop} {patience : Nat}

theorem exchangePort (returns : SpiMaster.Returns kept patience) (data : Bytes) :
    Stays (fun port : SpiPort σ => kept port.bus) patience (SpiPort.exchange data) := by
  intro port holds
  have exchanged : Stays (fun port : SpiPort σ => kept port.bus) patience
      ((SpiMaster.exchange (port.settings.bitOrder.onWire data)).on SpiPort.busPart) :=
    fun port holds => ends_on (returns.exchange _ port.bus holds)
  exact stays_bind exchanged (fun _ => stays_pure _) port holds

/-- There is nothing to wait for on this bus. -/
theorem perform (returns : SpiMaster.Returns kept patience) (operation : TransportOperation) :
    Stays (fun port : SpiPort σ => kept port.bus) patience
      (operation.perform : Action (SpiPort σ) operation.Answer) := by
  have ready : Stays (fun port : SpiPort σ => kept port.bus) patience SpiPort.ready :=
    stays_bind (returns.exchangePort _) fun _ => stays_pure _
  cases operation with
  | openBus => exact fun port holds => ends_on (returns.setClock _ _ port.bus holds)
  | wake => exact stays_bind ready fun _ => stays_pure _
  | poll => exact ready
  | send data => exact fun port holds => ends_on (returns.shiftOut _ port.bus holds)
  | receive wanted timeoutMs =>
    apply stays_bind (returns.exchangePort _)
    intro answer
    have notes : Stays (fun port : SpiPort σ => kept port.bus) patience
        (Host.note (.bytesReceived .spi (answer.drop 1))) :=
      fun port holds => returns.noted port.bus holds _
    exact stays_bind notes fun _ => stays_pure _

end SpiMaster.Returns

/-! ### Transports -/

/-- From the states that are kept, each call comes to an end in such a state, and so does a wait for
the controller that was given no budget. -/
structure Transport.Returns {σ : Type} [Host σ] [Transport σ] (kept : σ → Prop) (patience : Nat) :
    Prop where
  noted : ∀ state, kept state → ∀ notice, kept (Host.record notice state)
  slept : ∀ state, kept state → ∀ milliseconds, kept (Host.sleep milliseconds state)
  wake : Stays kept patience Transport.wake
  poll : Stays kept patience Transport.poll
  send : ∀ data, Stays kept patience (Transport.send data)
  receive : ∀ wanted timeoutMs, Stays kept patience (Transport.receive wanted timeoutMs)
  ready : Stays kept patience (Transport.awaitReady 0)

namespace Transport.Returns

variable {σ α : Type} [Host σ] [Transport σ] {kept : σ → Prop} {patience : Nat}
  (returns : Transport.Returns kept patience)
include returns

/-- Induction on the pauses that are left. -/
theorem pollWithin (left : Nat) : Stays kept patience (Transport.pollWithin left) := by
  have pauses : Stays kept patience (Host.pause pollIntervalMs) :=
    fun state holds => returns.slept state holds pollIntervalMs
  induction left with
  | zero =>
    -- The last poll is followed by no pause.
    apply stays_bind returns.poll
    intro ready
    exact stays_ite (stays_pure _) (stays_fail _)
  | succ left ih =>
    apply stays_bind returns.poll
    intro ready
    exact stays_ite (stays_pure _) (stays_bind pauses fun _ => ih)

theorem awaitReady (budgetMs : Nat) : Stays kept patience (Transport.awaitReady budgetMs) := by
  cases budgetMs with
  | zero => exact returns.ready
  | succ left => exact returns.pollWithin (left + 1)

theorem note (notice : BusKind → Notice) : Stays kept patience (Transport.note notice) :=
  note_stays returns.noted notice

theorem putCommand (header body : Bytes) :
    Stays kept patience (Transport.putCommand header body) := by
  apply stays_bind (stays_ofExcept _)
  intro frame
  apply stays_bind (returns.note _)
  intro _
  apply stays_bind (returns.send frame)
  rintro _ state holds
  rw [get_bind]
  refine stays_bind (stays_onFailure (returns.awaitReady _) fun _ => returns.note _) (fun _ => ?_)
    state holds
  apply stays_bind (returns.receive _ _)
  intro ack
  apply stays_bind (returns.note _)
  intro _
  exact stays_onFailure (stays_ofExcept _) fun _ => returns.note _

theorem takeResponse (command : UInt8) (timeoutMs capacity : Nat) :
    Stays kept patience (Transport.takeResponse command timeoutMs capacity) :=
  takeResponse_stays returns.noted command timeoutMs capacity (returns.awaitReady timeoutMs)
    fun wanted => returns.receive wanted timeoutMs

/-! ### Channels and the controller -/

omit returns [Host σ] [Transport σ] in
theorem onTransport {act : Action σ α} (stays : Stays kept patience act) :
    Stays (fun channel => kept channel.transport) patience (act.on Channel.transportPart) :=
  fun channel holds => ends_on (stays channel.transport holds)

theorem put (header body : Bytes) :
    Stays (fun channel : Channel σ => kept channel.transport) patience
      (Channel.put header body) := by
  cases header with
  | nil => exact stays_fail _
  | cons opcode rest =>
    have remembers : Stays (fun channel : Channel σ => kept channel.transport) patience
        (modify fun channel => { channel with lastCode := some opcode }) := fun _ holds => holds
    exact stays_bind remembers fun _ => onTransport (returns.putCommand (opcode :: rest) body)

theorem take (timeoutMs : Nat) :
    Stays (fun channel : Channel σ => kept channel.transport) patience
      (Channel.take timeoutMs) := by
  intro channel holds
  unfold Channel.take
  rw [get_bind]
  cases channel.lastCode with
  | none => exact holds
  | some opcode => exact onTransport (returns.takeResponse opcode timeoutMs _) channel holds

theorem askWithin (header body : Bytes) (timeoutMs : Nat) :
    Stays (fun channel : Channel σ => kept channel.transport) patience
      (Channel.askWithin header body timeoutMs) :=
  stays_bind (returns.put header body) fun _ => returns.take timeoutMs

theorem ask (header body : Bytes) :
    Stays (fun channel : Channel σ => kept channel.transport) patience
      (Channel.ask header body) :=
  fun channel holds => returns.askWithin header body channel.settings.timeoutMs channel holds

theorem channelOperation (operation : ChannelOperation) :
    Stays (fun channel : Channel σ => kept channel.transport) patience operation.perform := by
  cases operation with
  | put header body => exact stays_bind (returns.put header body) fun _ => stays_pure _
  | take timeoutMs => exact stays_bind (returns.take timeoutMs) fun _ => stays_pure _
  | ask header body => exact stays_bind (returns.ask header body) fun _ => stays_pure _
  | askWithin header body timeoutMs =>
    exact stays_bind (returns.askWithin header body timeoutMs) fun _ => stays_pure _
  | wake => exact stays_bind (onTransport returns.wake) fun _ => stays_pure _

theorem chipOperation (operation : ChipOperation) :
    Stays (fun channel : Channel σ => kept channel.transport) patience operation.perform := by
  let keeps {α : Type} (act : Action (Channel σ) α) : Prop :=
    Stays (fun channel => kept channel.transport) patience act
  have command (header : Bytes) : keeps (discard (Channel.ask header [])) :=
    stays_bind (returns.ask header []) fun _ => stays_pure ()
  have initAsTarget (command : Bytes) (timeoutMs : Nat) :
      keeps (Chip.initAsTarget command timeoutMs) := by
    cases command with
    | nil => exact stays_fail _
    | cons code rest =>
      exact stays_ite (returns.askWithin (code :: rest) [] timeoutMs) (stays_fail _)
  have note (notice : Notice) : keeps (Host.note notice) :=
    fun channel holds => returns.noted channel.transport holds notice
  cases operation with
  | firmware =>
    apply stays_bind (returns.ask _ [])
    intro answer
    split
    · exact stays_bind (note _) fun _ => stays_pure _
    · exact stays_fail _
  | samConfiguration => exact command _
  | switchField avoidCollision on => exact command _
  | limitRetries limit => exact command _
  | release target => exact command _
  | initAsTarget code timeoutMs => exact initAsTarget code timeoutMs
  | getData => exact stays_bind (returns.ask _ []) fun _ => stays_ofExcept _
  | setData header body =>
    exact stays_bind (returns.ask _ body) fun _ =>
      stays_bind (stays_ofExcept _) fun _ => stays_pure _
  | activate timeoutMs =>
    exact stays_bind (command _) fun _ =>
      stays_bind (initAsTarget _ timeoutMs) fun _ => note _

end Transport.Returns

/-! ### Links -/

/-- On a link with fewer frames to come than an observer stays for rounds, every request ends. -/
theorem Exhaustible.carryOut_stays {σ : Type} [Host σ] [PeerLink σ] (link : Exhaustible σ)
    (patience : Nat) (request : Request) :
    Stays (link.Fewer (patience + 1)) (patience + 1) request.carryOut :=
  (link.correspondence patience).carryOut request

namespace Returns

variable {σ α : Type} [Host σ] [PeerLink σ] {limit patience : Nat}

omit [Host σ] [PeerLink σ] in
theorem onLink {act : Action σ α} (returns : ∀ state, act patience state ≠ .waiting) :
    Stays (Endpoint.Limited limit) patience (act.on Endpoint.linkPart) := by
  intro endpoint limited
  apply ends_on
  cases ended : act patience (Endpoint.linkPart.get endpoint) with
  | done answer after => exact limited
  | failed error after => exact limited
  | waiting => exact absurd ended (returns endpoint.link)

omit [PeerLink σ] in
theorem note_limited (notice : Notice) :
    Stays (Endpoint.Limited (σ := σ) limit) patience (Host.note notice) :=
  fun _ limited => limited

omit [PeerLink σ] in
theorem clock_limited : Stays (Endpoint.Limited (σ := σ) limit) patience Host.clock :=
  fun _ limited => limited

/-- Every round but the last absorbs a SYMM, and the limit is held against their number. -/
theorem awaitFrom_limited (returns : Returns σ patience) (wanted : List PduType)
    (deadline : Deadline) {rounds absorbed : Nat} (within : absorbed ≤ limit)
    (enough : limit < rounds + absorbed) :
    Stays (Endpoint.Limited limit) patience
      (Endpoint.awaitFrom wanted deadline rounds absorbed : Action (Endpoint σ) Bytes) := by
  induction rounds generalizing absorbed with
  | zero => exact absurd within (Nat.not_le_of_lt (by rwa [Nat.zero_add] at enough))
  | succ rounds ih =>
    unfold Endpoint.awaitFrom
    apply stays_bind (Deadline.expired_stays clock_limited deadline)
    intro passed
    apply stays_ite (stays_bind (note_limited _) fun _ => stays_fail _)
    apply stays_bind (onLink returns.read)
    intro pdu
    apply stays_bind (stays_ofExcept _)
    intro type
    apply stays_bind (note_limited _)
    intro _
    apply stays_ite (stays_pure _)
    apply stays_ite (stays_fail _)
    intro endpoint limited
    rw [get_bind, limited, Option.any_some]
    split
    · exact stays_bind (note_limited _) (fun _ => stays_fail _) endpoint limited
    -- The limit leaves room for this SYMM, and so for a round more.
    next answered =>
      have more : absorbed + 1 ≤ limit := by simpa using answered
      have passes : Stays (Endpoint.Limited limit) patience
          (Endpoint.passTurn : Action (Endpoint σ) Unit) :=
        stays_bind (note_limited _) fun _ => onLink (returns.written _ _)
      exact stays_bind passes (fun _ => ih more (by omega)) endpoint limited

/-- An observer who stays for more rounds than SYMMs are answered sees the end of everything. -/
def correspondence (returns : Returns σ patience) (enough : limit < patience) :
    Correspondence σ σ where
  relates act _ := Stays (Endpoint.Limited limit) patience act
  pure := stays_pure
  fail _ := stays_fail _
  bind := stays_bind
  attempt := stays_attempt
  onFailure := stays_onFailure
  noted := note_limited
  looked := clock_limited
  current _ limited := limited
  updated _ _ limited := limited
  settings rest endpoint limited := rest endpoint.settings endpoint limited
  activated timeoutMs := onLink (returns.activated timeoutMs)
  read := onLink returns.read
  written header body := onLink (returns.written header body)
  waited wanted deadline :=
    returns.awaitFrom_limited wanted deadline (Nat.zero_le limit) enough

theorem carryOut_limited (returns : Returns σ patience) (enough : limit < patience)
    (request : Request) : Stays (Endpoint.Limited (σ := σ) limit) patience request.carryOut :=
  (returns.correspondence enough).carryOut request

end Returns

end NfcLink
