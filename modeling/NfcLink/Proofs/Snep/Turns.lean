import NfcLink.Proofs.Llcp.Turns
import NfcLink.Proofs.Snep.Conduct
import NfcLink.Sim.Reply

/-!
# Turns of an exchange

Once the link is activated, pushing and pulling read and write alternately and start with
a read, however far they come. The operations of either fit together, for each leaves the
turn that the next one starts with.
-/
namespace NfcLink

open NfcLink.Action Outcome

/-- Whose turn it is next and in which role, if the operation fits. -/
def Operation.fits : Turn × Role → Operation → Option (Turn × Role)
  | (turn, role), operation =>
    if operation.activates = false ∧ operation.firstTurn role = turn then
      some (operation.lastTurn, operation.roleAfter role)
    else none

theorem Operation.fits_eq_some_iff {turn next : Turn} {role after : Role} {operation : Operation} :
    operation.fits (turn, role) = some (next, after) ↔
      operation.activates = false ∧ operation.firstTurn role = turn ∧
        operation.lastTurn = next ∧ operation.roleAfter role = after := by
  simp [Operation.fits, and_assoc]

/-- What a plan leaves of which every operation fits what the ones before it left. -/
def fitTogether (turn : Turn) (role : Role) (plan : List Operation) : Option (Turn × Role) :=
  plan.foldlM Operation.fits (turn, role)

theorem fitTogether_append_eq_some_iff {turn : Turn} {role : Role} {earlier later : List Operation}
    {left : Turn × Role} :
    fitTogether turn role (earlier ++ later) = some left ↔
      ∃ middle, fitTogether turn role earlier = some middle ∧
        fitTogether middle.1 middle.2 later = some left := by
  simp [fitTogether, List.foldlM_append, Option.bind_eq_some_iff]

theorem fitTogether_cons_eq_some_iff {turn : Turn} {role : Role} {operation : Operation}
    {later : List Operation} {left : Turn × Role} :
    fitTogether turn role (operation :: later) = some left ↔
      ∃ middle, operation.fits (turn, role) = some middle ∧
        fitTogether middle.1 middle.2 later = some left := by
  simp [fitTogether, Option.bind_eq_some_iff]

theorem Carries.alternates {before after : Connection} {plan : List Operation}
    {calls : List LinkCall} {answers : List (Option Bytes)} {turn next : Turn} {role : Role}
    (carries : Carries before plan calls answers after)
    (fits : fitTogether turn before.role plan = some (next, role)) :
    Alternates turn calls next ∧ after.role = role := by
  induction carries generalizing next role with
  | start =>
    cases fits
    exact ⟨.still turn, rfl⟩
  | @next plan calls more answers between after operation answer carries performs ih =>
    obtain ⟨⟨middle, current⟩, earlier, last⟩ := fitTogether_append_eq_some_iff.mp fits
    obtain ⟨alternates, same⟩ := ih earlier
    have fit : operation.fits (middle, current) = some (next, role) := by
      simpa [fitTogether] using last
    obtain ⟨uses, opens, closes, left⟩ := Operation.fits_eq_some_iff.mp fit
    have turns := (performs.turns uses).alternates
    rw [same, opens, closes] at turns
    refine ⟨alternates.append turns, ?_⟩
    rw [performs.role, same, left]

theorem Stops.alternates {before after : Connection} {plan : List Operation}
    {calls : List LinkCall} {error : Error} {turn : Turn} {left : Turn × Role}
    (stops : Stops before plan calls error after)
    (fits : fitTogether turn before.role plan = some left) :
    ∃ next, Alternates turn calls next := by
  cases stops with
  | @here earlier later operation calls more answers between _ _ split carries performs =>
    subst split
    obtain ⟨⟨middle, current⟩, before, rest⟩ := fitTogether_append_eq_some_iff.mp fits
    obtain ⟨alternates, same⟩ := carries.alternates before
    obtain ⟨⟨next, role⟩, fit, -⟩ := fitTogether_cons_eq_some_iff.mp rest
    obtain ⟨uses, opens, -⟩ := Operation.fits_eq_some_iff.mp fit
    obtain ⟨turn, further, -⟩ := performs.turns uses
    rw [same, opens] at further
    exact ⟨turn, alternates.append further⟩

namespace Snep

theorem pushPlan_fits (object : Bytes) (timeoutMs : Nat) (role : Role) :
    fitTogether .hear role (pushPlan object timeoutMs) = some (.hear, .initiator) := rfl

theorem pullPlan_fits (timeoutMs : Nat) (role : Role) :
    fitTogether .hear role (pullPlan timeoutMs) = some (.hear, .target) := rfl

/-- No call at all, or activation and after it reads and writes in turns, a read first. -/
def AlternatesOnceActivated (timeoutMs : Nat) (calls : List LinkCall) : Prop :=
  calls = [] ∨ ∃ result exchange last, calls = .activated timeoutMs result :: exchange ∧
    Alternates .hear exchange last

theorem alternatesOnceActivated {timeoutMs : Nat} {before ready : Connection}
    {activation exchange : List LinkCall} {result : Except Error (Option Bytes)} {last : Turn}
    (activates : Performs (.activate timeoutMs) before activation result ready)
    (alternates : Alternates .hear exchange last) :
    AlternatesOnceActivated timeoutMs (activation ++ exchange) := by
  cases activates with
  | refused needed missing => cases needed
  | activated _ result => exact .inr ⟨result, exchange, last, rfl, alternates⟩

theorem Pushes.alternates {object : Bytes} {timeoutMs : Nat} {before after : Connection}
    {calls : List LinkCall} {result : Except Error Unit}
    (pushes : Pushes object timeoutMs before calls result after) :
    AlternatesOnceActivated timeoutMs calls := by
  cases pushes with
  | tooLarge exceeds => exact .inl rfl
  | unactivated fits performs =>
    rw [← List.append_nil calls]
    exact alternatesOnceActivated performs (.still .hear)
  | stopped fits activates stops =>
    obtain ⟨last, alternates⟩ := stops.alternates (pushPlan_fits object timeoutMs _)
    exact alternatesOnceActivated activates alternates
  | rejected fits activates carries rejects =>
    obtain ⟨alternates, -⟩ := carries.alternates (pushPlan_fits object timeoutMs _)
    exact alternatesOnceActivated activates alternates
  | pushed fits activates carries accepts releases =>
    obtain ⟨alternates, -⟩ := carries.alternates (pushPlan_fits object timeoutMs _)
    obtain ⟨last, further, -⟩ := releases.turns rfl
    exact alternatesOnceActivated activates (alternates.append further)

theorem Pulls.alternates {acceptShifted : Bool} {timeoutMs : Nat} {before after : Connection}
    {calls : List LinkCall} {result : Except Error Bytes}
    (pulls : Pulls acceptShifted timeoutMs before calls result after) :
    AlternatesOnceActivated timeoutMs calls := by
  cases pulls with
  | unactivated performs =>
    rw [← List.append_nil calls]
    exact alternatesOnceActivated performs (.still .hear)
  | stopped activates stops =>
    obtain ⟨last, alternates⟩ := stops.alternates (pullPlan_fits timeoutMs _)
    exact alternatesOnceActivated activates alternates
  | rejected activates carries rejects =>
    obtain ⟨alternates, -⟩ := carries.alternates (pullPlan_fits timeoutMs _)
    exact alternatesOnceActivated activates alternates
  | answered activates carries reads responds =>
    obtain ⟨alternates, same⟩ := carries.alternates (pullPlan_fits timeoutMs _)
    obtain ⟨last, further, -⟩ := responds.turns rfl
    rw [same] at further
    exact alternatesOnceActivated activates (alternates.append further)

end Snep

section Observation

variable {σ : Type} [Host σ] [PeerLink σ]

/-- Whatever the link does and wherever an exchange fails, pushing and pulling read and write in
turns once the link is activated, and read first. An end that has accepted a connection never writes
without having read right before. -/
theorem exchanges_take_turns (before : Endpoint (Observed σ)) (timeoutMs patience : Nat) :
    (∀ object result after,
      (Snep.pushWithin object timeoutMs patience before).ended = some (result, after) →
      ∃ calls, after.link.calls = before.link.calls ++ calls ∧
        Snep.AlternatesOnceActivated timeoutMs calls) ∧
    (∀ acceptShifted result after,
      (Snep.pullWithin acceptShifted timeoutMs patience before).ended = some (result, after) →
      ∃ calls, after.link.calls = before.link.calls ++ calls ∧
        Snep.AlternatesOnceActivated timeoutMs calls) ∧
    (∀ opening later last, Run before (opening :: later) last →
      opening.operation = .accept timeoutMs →
      (∀ step ∈ later, step.operation.needsConnection = true) →
      ∃ calls, last.link.calls = before.link.calls ++ calls ∧ WritesFollowReads [] calls) := by
  refine ⟨?_, ?_, ?_⟩
  · intro object result after ended
    obtain ⟨calls, seen, pushes⟩ := (ifEnds_iff _ _).mp
      (Recording.observed.pushWithin_pushes object timeoutMs) result after ended
    exact ⟨calls, seen, pushes.alternates⟩
  · intro acceptShifted result after ended
    obtain ⟨calls, seen, pulls⟩ := (ifEnds_iff _ _).mp
      (Recording.observed.pullWithin_pulls acceptShifted timeoutMs) result after ended
    exact ⟨calls, seen, pulls.alternates⟩
  · intro opening later last run accepts needs
    exact ⟨_, run.calls, run.accepted_turns accepts needs⟩

end Observation

/-- Takes one octet that is pushed to it, and releases the connection. -/
def takingPeer : Observed (Bench PeerScript) :=
  let script := [Reply.pdu 0 .symm 0, Reply.pdu 0x20 .cc 0x04, Reply.receiveReady 0x20 0x04 1,
    Reply.information 0x20 0x04 0 1 (Snep.header Snep.success 0), Reply.pdu 0 .symm 0,
    Reply.pdu 0x20 .dm 0x04]
  { inner := { device := { inbound := script.map .ok } } }

/-- Brings one octet to the end that accepts its connection. -/
def bringingPeer : Observed (Bench PeerScript) :=
  let script := [Reply.pdu 0x04 .connect 0x20,
    Reply.information 0x04 0x20 0 0 (Reply.putRequest [0x78]), Reply.pdu 0 .symm 0,
    Reply.receiveReady 0x04 0x20 1]
  { inner := { device := { inbound := script.map .ok } } }

/-- A push and a pull that succeed, and a connection that is accepted and used. -/
theorem exchanges_of_one_octet_take_turns :
    (∃ after, (Snep.pushWithin [0x78] 1000 9 { link := takingPeer }).ended = some (.ok (), after) ∧
      Snep.AlternatesOnceActivated 1000 after.link.calls) ∧
    (∃ after, (Snep.pullWithin true 1000 9 { link := bringingPeer }).ended =
        some (.ok [0x78], after) ∧
      Snep.AlternatesOnceActivated 1000 after.link.calls) ∧
    ∃ history last, Run { link := bringingPeer } history last ∧
      history.map Step.operation = [.accept 1000, .receive, .transmit [0x79] []] ∧
      last.connection.ns = 1 ∧ WritesFollowReads [] last.link.calls := by
  refine ⟨?_, ?_, ?_⟩
  · have ends : (Snep.pushWithin [0x78] 1000 9 { link := takingPeer }).ended.map
        (fun (result, _) => result.toOption) = some (some ()) := by
      decide +kernel
    obtain ⟨⟨_ | answer, after⟩, ended, ⟨⟩⟩ := Option.map_eq_some_iff.mp ends
    obtain ⟨pushes, -⟩ := exchanges_take_turns { link := takingPeer } 1000 9
    obtain ⟨calls, seen, turns⟩ := pushes [0x78] _ after ended
    exact ⟨after, ended, seen ▸ turns⟩
  · have ends : (Snep.pullWithin true 1000 9 { link := bringingPeer }).ended.map
        (fun (result, _) => result.toOption) = some (some [0x78]) := by
      decide +kernel
    obtain ⟨⟨_ | answer, after⟩, ended, ⟨⟩⟩ := Option.map_eq_some_iff.mp ends
    obtain ⟨-, pulls, -⟩ := exchanges_take_turns { link := bringingPeer } 1000 9
    obtain ⟨calls, seen, turns⟩ := pulls true _ after ended
    exact ⟨after, ended, seen ▸ turns⟩
  · have runs : (runOf 9 { link := bringingPeer } [.accept 1000, .receive, .transmit [0x79] []]).map
        (fun (_, last) => last.connection.ns) = some 1 := by
      decide +kernel
    obtain ⟨⟨history, last⟩, found, number⟩ := Option.map_eq_some_iff.mp runs
    obtain ⟨run, operations⟩ := runOf_sound found
    refine ⟨history, last, run, operations, number, ?_⟩
    simp only [List.map_eq_cons_iff, List.map_eq_nil_iff] at operations
    obtain ⟨opening, later, rfl, accepts, former, _, rfl, receives, latter, _, rfl, transmits,
      rfl⟩ := operations
    have needs : ∀ step ∈ [former, latter], step.operation.needsConnection = true := by
      simp [receives, transmits, Operation.needsConnection]
    obtain ⟨-, -, accepted⟩ := exchanges_take_turns { link := bringingPeer } 1000 9
    obtain ⟨calls, seen, turns⟩ := accepted opening [former, latter] last run accepts needs
    exact seen ▸ turns

end NfcLink
