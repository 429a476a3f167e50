import NfcLink.Proofs.Position.Formats
import NfcLink.Proofs.Snep.Session

/-!
# Link operations read by position

An endpoint and the object exchange on top of it, with every PDU and every message read
by position. The peer may send anything: a PDU is cut behind the header that was read
off it, and a request is looked into only when its header is known to be there, before
stray octets are dropped and again after that.
-/
namespace NfcLink

open Positional

variable {σ : Type} [Host σ] [PeerLink σ]

/-! ### Endpoints -/

namespace Endpoint

def awaitFromByPosition (wanted : List PduType) (deadline : Deadline) :
    (rounds : Nat) → (absorbed : Nat) → Positional (Endpoint σ) Bytes
  | 0, _ => plain Action.unfinished
  | rounds + 1, absorbed => do
    if ← plain deadline.expired then do
      plain (Host.note (.deadlinePassed wanted))
      plain (Action.fail .timeout)
    else do
      let pdu ← plain readPdu
      let type ← plain (PduHeader.typeOf pdu)
      plain (Host.note (.pduReceived type pdu))
      if type ∈ wanted then return pdu
      else if type ≠ .symm then
        plain (Action.fail (.link (.unexpectedPdu (PduType.alternatives wanted) type)))
      else do
        -- The SYMM is counted before it is held against the limit.
        let taken := absorbed + 1
        let endpoint ← plain Action.get
        if endpoint.settings.maxSymm.any fun limit => decide (limit < taken) then do
          let answered ← difference? taken 1
          plain (Host.note (.symmLimit answered))
          plain (Action.fail .timeout)
        else do
          plain passTurn
          awaitFromByPosition wanted deadline rounds taken

def awaitByPosition (wanted : List PduType) (deadline : Deadline) :
    Positional (Endpoint σ) Bytes := do
  let rounds ← plain Action.patience
  awaitFromByPosition wanted deadline rounds 0

def concludeByPosition (handshake : Positional (Endpoint σ) Unit) (success : Phase) :
    Positional (Endpoint σ) Unit := do
  match ← handshake.attempt with
  | .ok _ => plain (enter success)
  | .error error => do
    plain (enter .idle)
    plain (Action.fail error)

def answerConnectByPosition (deadline : Deadline) : Positional (Endpoint σ) Unit := do
  let pdu ← awaitByPosition [.connect] deadline
  let connect ← read (PduHeader.parseByPosition pdu)
  plain (update fun connection => { connection with dsap := connect.ssap, ssap := connect.dsap })
  plain (sendPlain .cc [])

def acceptByPosition (timeoutMs : Nat) : Positional (Endpoint σ) Unit := do
  plain (update fun connection => { connection with role := .target, ns := 0, nr := 0 })
  plain (enter .connecting)
  let deadline ← plain (Deadline.after timeoutMs)
  concludeByPosition (answerConnectByPosition deadline) .connected

def proposeConnectByPosition (deadline : Deadline) : Positional (Endpoint σ) Unit := do
  plain takeTurn
  plain (sendPlain .connect
    (serviceNameParameter :: UInt8.ofNat serviceName.length :: serviceName))
  discard (awaitByPosition [.cc] deadline)

def connectByPosition (timeoutMs : Nat) : Positional (Endpoint σ) Unit := do
  plain (update fun connection =>
    { connection with
      role := .initiator, dsap := exchangeService, ssap := initiatorAddress, ns := 0, nr := 0 })
  plain (enter .connecting)
  let deadline ← plain (Deadline.after timeoutMs)
  concludeByPosition (proposeConnectByPosition deadline) .connected

def acceptReleaseByPosition : Positional (Endpoint σ) Unit := do
  plain onlyConnected
  plain (enter .disconnecting)
  let deadline ← plain transferDeadline
  concludeByPosition (do
    discard (awaitByPosition [.disc] deadline)
    plain (sendPlain .dm [])) .idle

def releaseByPosition : Positional (Endpoint σ) Unit := do
  plain onlyConnected
  plain (enter .disconnecting)
  let deadline ← plain transferDeadline
  concludeByPosition (do
    plain takeTurn
    plain (sendPlain .disc [])
    discard (awaitByPosition [.dm] deadline)) .idle

def transmitByPosition (header body : Bytes) : Positional (Endpoint σ) Unit := do
  plain onlyConnected
  let deadline ← plain transferDeadline
  let connection ← plain current
  if connection.role = .target then plain takeTurn
  let information : PduHeader :=
    ⟨connection.dsap, .information, connection.ssap, some (connection.ns, connection.nr)⟩
  plain (sendPdu (information.encode ++ header) body)
  discard (awaitByPosition [.receiveReady] deadline)
  plain (update fun connection => { connection with ns := connection.ns.next })
  let after ← plain current
  plain (Host.note (.acknowledged after.ns))
  plain passTurn

/-- The information field is what is left behind the header, cut off when all else is done. -/
def receiveByPosition : Positional (Endpoint σ) Bytes := do
  plain onlyConnected
  let deadline ← plain transferDeadline
  let pdu ← awaitByPosition [.information] deadline
  let inbound ← read (PduHeader.parseByPosition pdu)
  plain (update fun connection => { connection with dsap := inbound.ssap, ssap := inbound.dsap })
  let received := inbound.ns.getD 0
  let acknowledgement : PduHeader :=
    ⟨inbound.ssap, .receiveReady, inbound.dsap, some (0, received.next)⟩
  plain (sendPdu acknowledgement.encode [])
  plain (update fun connection => { connection with nr := connection.nr.next })
  pdu.sliceFrom? inbound.encodedLength

/-- Induction on the rounds of the wait. -/
theorem awaitFrom_matches (wanted : List PduType) (deadline : Deadline) (rounds absorbed : Nat) :
    Matches (awaitFromByPosition wanted deadline rounds absorbed : Positional (Endpoint σ) Bytes)
      (awaitFrom wanted deadline rounds absorbed) := by
  induction rounds generalizing absorbed with
  | zero => exact matches_plain _
  | succ rounds ih =>
    unfold awaitFromByPosition awaitFrom
    refine matches_then fun passed => matches_ite ?_ ?_
    · exact matches_then fun _ => matches_plain _
    · refine matches_then fun pdu => matches_then fun type => matches_then fun _ => ?_
      apply matches_ite (matches_pure _)
      apply matches_ite (matches_plain _)
      refine matches_then fun endpoint => matches_ite ?_ ?_
      · apply matches_access (difference_of_le (Nat.le_add_left 1 absorbed))
        exact matches_then fun _ => matches_plain _
      · exact matches_then fun _ => ih _

theorem await_matches (wanted : List PduType) (deadline : Deadline) :
    Matches (awaitByPosition wanted deadline : Positional (Endpoint σ) Bytes)
      (await wanted deadline) :=
  matches_then fun rounds => awaitFrom_matches wanted deadline rounds 0

omit [PeerLink σ] in
theorem conclude_matches {handshake : Positional (Endpoint σ) Unit} {act : Action (Endpoint σ) Unit}
    (same : handshake.Matches act) (success : Phase) :
    (concludeByPosition handshake success).Matches (conclude act success) := by
  apply same.attempt.bind
  intro result
  cases result with
  | ok _ => exact matches_plain _
  | error error => exact matches_then fun _ => matches_plain _

theorem accept_matches (timeoutMs : Nat) :
    Matches (acceptByPosition timeoutMs : Positional (Endpoint σ) Unit) (accept timeoutMs) := by
  refine matches_then fun _ => matches_then fun _ => matches_then fun deadline => ?_
  apply conclude_matches
  apply (await_matches _ deadline).bind
  intro pdu
  apply matches_read_bind (PduHeader.parse_gives pdu)
  intro connect _
  exact matches_then fun _ => matches_plain _

theorem connect_matches (timeoutMs : Nat) :
    Matches (connectByPosition timeoutMs : Positional (Endpoint σ) Unit) (connect timeoutMs) := by
  refine matches_then fun _ => matches_then fun _ => matches_then fun deadline => ?_
  apply conclude_matches
  exact matches_then fun _ => matches_then fun _ => (await_matches _ deadline).discard

theorem acceptRelease_matches :
    Matches (acceptReleaseByPosition : Positional (Endpoint σ) Unit) acceptRelease := by
  refine matches_then fun _ => matches_then fun _ => matches_then fun deadline => ?_
  apply conclude_matches
  exact (await_matches _ deadline).discard.bind fun _ => matches_plain _

theorem release_matches :
    Matches (releaseByPosition : Positional (Endpoint σ) Unit) release := by
  refine matches_then fun _ => matches_then fun _ => matches_then fun deadline => ?_
  apply conclude_matches
  exact matches_then fun _ => matches_then fun _ => (await_matches _ deadline).discard

theorem transmit_matches (header body : Bytes) :
    Matches (transmitByPosition header body : Positional (Endpoint σ) Unit)
      (transmit header body) := by
  refine matches_then fun _ => matches_then fun deadline => matches_then fun connection => ?_
  apply matches_ite (matches_then fun _ => ?_) ?_
  all_goals
    refine matches_then fun _ => (await_matches _ deadline).discard.bind fun _ => ?_
    exact matches_then fun _ => matches_then fun _ => matches_then fun _ => matches_plain _

/-- A header that was read off a PDU is no longer than the PDU. -/
theorem receive_matches :
    Matches (receiveByPosition : Positional (Endpoint σ) Bytes) receive := by
  refine matches_then fun _ => matches_then fun deadline => ?_
  apply (await_matches _ deadline).bind
  intro pdu
  have header := PduHeader.parse_gives pdu
  unfold PduHeader.parse at header
  cases cut : PduHeader.split pdu with
  | error error =>
    rw [cut] at header
    exact matches_read_stop header _
  | ok found =>
    obtain ⟨inbound, field⟩ := found
    rw [cut] at header
    apply matches_read_then header
    refine matches_then fun _ => matches_then fun _ => matches_then fun _ => ?_
    exact matches_read (Reading.gives_access (PduHeader.field_of_split cut))

end Endpoint

def Operation.performByPosition : Operation → Positional (Endpoint σ) (Option Bytes)
  | activate timeoutMs => do
    plain (Endpoint.activate timeoutMs)
    return none
  | connect timeoutMs => do
    Endpoint.connectByPosition timeoutMs
    return none
  | accept timeoutMs => do
    Endpoint.acceptByPosition timeoutMs
    return none
  | transmit header body => do
    Endpoint.transmitByPosition header body
    return none
  | receive => do
    let field ← Endpoint.receiveByPosition
    return some field
  | release => do
    Endpoint.releaseByPosition
    return none
  | acceptRelease => do
    Endpoint.acceptReleaseByPosition
    return none

theorem Operation.perform_matches (operation : Operation) :
    Matches (operation.performByPosition : Positional (Endpoint σ) (Option Bytes))
      operation.perform := by
  cases operation with
  | activate timeoutMs => exact (matches_plain (Endpoint.activate timeoutMs)).map fun _ => none
  | connect timeoutMs => exact (Endpoint.connect_matches timeoutMs).map fun _ => none
  | accept timeoutMs => exact (Endpoint.accept_matches timeoutMs).map fun _ => none
  | transmit header body => exact (Endpoint.transmit_matches header body).map fun _ => none
  | receive => exact Endpoint.receive_matches.map some
  | release => exact Endpoint.release_matches.map fun _ => none
  | acceptRelease => exact Endpoint.acceptRelease_matches.map fun _ => none

/-! ### Object exchange -/

namespace Snep

def pushWithinByPosition (object : Bytes) (timeoutMs : Nat) : Positional (Endpoint σ) Unit :=
  if object.length > maxObject then plain (Action.fail (.payloadTooLarge object.length maxObject))
  else do
    plain (Endpoint.activate timeoutMs)
    Endpoint.connectByPosition timeoutMs
    plain (Host.note (.pushing object.length))
    Endpoint.transmitByPosition (header putRequest object.length) object
    let response ← Endpoint.receiveByPosition
    read (expectSuccessByPosition response)
    match ← Endpoint.releaseByPosition.attempt with
    | .ok _ => pure ()
    | .error error => plain (Host.note (.releaseFailed error))

/-- The fifth octet is looked at only when the first is not a version. What is left without the
stray octets may be too short for a header. -/
def realignByPosition (acceptShifted : Bool) (request : Bytes) : Positional (Endpoint σ) Bytes :=
  if acceptShifted then do
    let first ← request.octet? 0
    if first ≠ version then do
      let fifth ← request.octet? 4
      if fifth = version then do
        let stray ← request.slice? 0 4
        plain (Host.note (.headerShifted stray))
        let rest ← request.sliceFrom? 4
        read (rest.requireLength headerLength)
        return rest
      else return request
    else return request
  else return request

def pullWithinByPosition (acceptShifted : Bool) (timeoutMs : Nat) :
    Positional (Endpoint σ) Bytes := do
  plain (Endpoint.activate timeoutMs)
  Endpoint.acceptByPosition timeoutMs
  let request ← Endpoint.receiveByPosition
  read (request.requireLength headerLength)
  let aligned ← realignByPosition acceptShifted request
  let object ← read (objectByPosition aligned)
  plain (Host.note (.pulled object.length))
  Endpoint.transmitByPosition (header success 0) []
  return object

theorem pushWithin_matches (object : Bytes) (timeoutMs : Nat) :
    Matches (pushWithinByPosition object timeoutMs : Positional (Endpoint σ) Unit)
      (pushWithin object timeoutMs) := by
  apply matches_ite (matches_plain _)
  refine matches_then fun _ => (Endpoint.connect_matches timeoutMs).bind fun _ => ?_
  refine matches_then fun _ => (Endpoint.transmit_matches _ _).bind fun _ => ?_
  apply Endpoint.receive_matches.bind
  intro response
  apply matches_read_bind (expectSuccess_gives response)
  intro _ _
  apply Endpoint.release_matches.attempt.bind
  intro released
  cases released with
  | ok _ => exact matches_pure ()
  | error error => exact matches_plain _

omit [PeerLink σ] in
/-- A request that is put right, and read. -/
theorem realign_matches (acceptShifted : Bool) {request : Bytes}
    (long : headerLength ≤ request.length) {α : Type} {next : Bytes → Positional (Endpoint σ) α}
    {follow : Bytes → Action (Endpoint σ) α}
    (rest : ∀ object, (next object).Matches (follow object)) :
    Matches (do
      let aligned ← realignByPosition acceptShifted request
      let object ← read (objectByPosition aligned)
      next object) (do
      let aligned ← realign acceptShifted request
      let object ← object aligned
      follow object) := by
  have unshifted : Matches (do
      let object ← read (objectByPosition request)
      next object) (do
      let object ← object request
      follow object) := matches_read_bind (object_gives long) fun object _ => rest object
  match acceptShifted, request, long with
  | false, _, _ => exact unshifted
  | true, first :: code :: a :: b :: fifth :: d :: field, long =>
    rw [realignByPosition, realign, if_pos rfl, Bool.true_and, bind_assoc]
    apply matches_access rfl
    by_cases versioned : first = version
    · have stands : shifted (first :: code :: a :: b :: fifth :: d :: field) = false := by
        simp [shifted, versioned]
      rw [if_neg (Classical.not_not.mpr versioned), stands, pure_bind]
      exact unshifted
    · rw [if_pos versioned, bind_assoc]
      apply matches_access rfl
      by_cases moved : fifth = version
      · have shifts : shifted (first :: code :: a :: b :: fifth :: d :: field) = true := by
          simp [shifted, versioned, moved, headerLength]
        have left : (first :: code :: a :: b :: fifth :: d :: field).drop 4 = fifth :: d :: field :=
          rfl
        have four : 4 ≤ (first :: code :: a :: b :: fifth :: d :: field).length :=
          Nat.le_trans (by decide) long
        have behind := Bytes.sliceFrom_of_le four
        rw [left] at behind
        rw [if_pos moved, if_pos shifts, left]
        simp only [bind_assoc, pure_bind]
        apply matches_access (Bytes.slice_front four)
        refine matches_then fun _ => ?_
        apply matches_access behind
        -- What the stray octets leave is checked for its length once more.
        rcases Nat.lt_or_ge (fifth :: d :: field).length headerLength with short | enough
        · rw [object_of_short short]
          exact matches_read_stop (Reading.gives_lift (Bytes.requireLength_of_lt short)) _
        · have passed := (Bytes.requireLength_eq_ok_iff _ _).mpr enough
          apply matches_read_then (Reading.gives_lift passed)
          exact matches_read_bind (object_gives enough) fun object _ => rest object
      · have stands : shifted (first :: code :: a :: b :: fifth :: d :: field) = false := by
          simp [shifted, moved]
        rw [if_neg moved, stands, pure_bind]
        exact unshifted

theorem pullWithin_matches (acceptShifted : Bool) (timeoutMs : Nat) :
    Matches (pullWithinByPosition acceptShifted timeoutMs : Positional (Endpoint σ) Bytes)
      (pullWithin acceptShifted timeoutMs) := by
  refine matches_then fun _ => (Endpoint.accept_matches timeoutMs).bind fun _ => ?_
  apply Endpoint.receive_matches.bind
  intro request
  apply matches_read_bind (Reading.gives_lift rfl)
  intro _ passed
  have long := (Bytes.requireLength_eq_ok_iff _ _).mp passed
  apply realign_matches acceptShifted long
  intro object
  exact matches_then fun _ => (Endpoint.transmit_matches _ _).map fun _ => object

end Snep

def Request.carryOutByPosition : Request → Positional (Endpoint σ) (Option Bytes)
  | perform operation => operation.performByPosition
  | await wanted deadline => do
    let pdu ← Endpoint.awaitByPosition wanted deadline
    return some pdu
  | push object timeoutMs => do
    Snep.pushWithinByPosition object timeoutMs
    return none
  | pull acceptShifted timeoutMs => do
    let object ← Snep.pullWithinByPosition acceptShifted timeoutMs
    return some object

theorem Request.carryOut_matches (request : Request) :
    Matches (request.carryOutByPosition : Positional (Endpoint σ) (Option Bytes))
      request.carryOut := by
  cases request with
  | perform operation => exact operation.perform_matches
  | await wanted deadline => exact (Endpoint.await_matches wanted deadline).map some
  | push object timeoutMs => exact (Snep.pushWithin_matches object timeoutMs).map fun _ => none
  | pull acceptShifted timeoutMs =>
    exact (Snep.pullWithin_matches acceptShifted timeoutMs).map some

end NfcLink
