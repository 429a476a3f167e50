import NfcLink.Proofs.Llcp.Confirmation
import NfcLink.Proofs.Llcp.Duplicates
import NfcLink.Proofs.Snep.Reception
import NfcLink.Tap

/-!
# Objects whose success was acknowledged

A pull that has reported success and has seen the report acknowledged has its object. One
step is left, the SYMM that passes the turn on, and what comes of it decides what comes of
the object.
-/
namespace NfcLink

open NfcLink.Action Outcome

/-! ### The field that was heard -/

theorem fieldsOf_cons_other {pdu : Bytes} {type : PduType} (pdus : List Bytes)
    (typed : PduHeader.typeOf pdu = .ok type) (other : type ≠ .information) :
    fieldsOf (pdu :: pdus) = fieldsOf pdus := by
  have passed : PduHeader.isOf .information pdu = false := by
    rw [PduHeader.isOf_of_typeOf typed]
    exact decide_eq_false other
  rw [fieldsOf, List.filter_cons_of_neg (by rw [passed]; exact Bool.false_ne_true)]
  rfl

/-- What a wait passes over are SYMMs, so its fields are those of the PDU it took. -/
theorem Waits.fields {wanted : List PduType} {calls : List LinkCall} {pdu : Bytes}
    (waits : Waits wanted calls (.ok pdu)) : fieldsOf (heardIn calls) = fieldsOf [pdu] := by
  generalize same : Except.ok pdu = result at waits
  induction waits with
  | taken typed member =>
    cases same
    rfl
  | answered symm other rest ih => exact (fieldsOf_cons_other _ symm nofun).trans (ih same)
  | _ => cases same

theorem TakesTurn.fields {calls : List LinkCall} (turn : TakesTurn calls (.ok ())) :
    fieldsOf (heardIn calls) = [] := by
  cases turn with
  | taken symm => exact fieldsOf_cons_other [] symm nofun

section Performed

variable {before after : Connection} {calls : List LinkCall} {answer : Option Bytes}

theorem Performs.accept_fields {timeoutMs : Nat}
    (performs : Performs (.accept timeoutMs) before calls (.ok answer) after) :
    fieldsOf (heardIn calls) = [] := by
  generalize same : Except.ok answer = result at performs
  cases performs with
  | refused needed missing => cases needed
  | unheard hears => cases same
  | accepted hears ending =>
    obtain ⟨pdu, -, waits⟩ := hears.waited
    rw [heardIn_append_written, waits.fields]
    exact fieldsOf_cons_other [] waits.typed nofun

theorem Performs.receive_fields {field : Bytes}
    (performs : Performs .receive before calls (.ok (some field)) after) :
    fieldsOf (heardIn calls) = [field] := by
  generalize same : Except.ok (some field) = result at performs
  cases performs with
  | refused needed missing => cases same
  | unreceived connected hears => cases same
  | unacknowledged connected hears error => cases same
  | received connected hears =>
    cases same
    obtain ⟨pdu, read, waits⟩ := hears.waited
    obtain ⟨-, rfl, -⟩ := PduHeader.split_sequenced waits.typed rfl read
    have informs := PduHeader.isOf_iff.mpr waits.typed
    rw [heardIn_append_written, waits.fields, fieldsOf, List.filter_cons_of_pos informs]
    rfl

end Performed

/-! ### One information PDU in the calls -/

/-- Calls around the only information PDU that was sent can be taken apart in one way. -/
theorem eq_of_informs_once {earlier later before after : List LinkCall}
    {header body sent field : Bytes} {result ending : Except Error Unit}
    (silentBefore : informedIn earlier = []) (silentAfter : informedIn later = [])
    (informs : PduHeader.isOf .information (sent ++ field) = true)
    (same : earlier ++ .written header body result :: later =
      before ++ .written sent field ending :: after) :
    before = earlier ∧ after = later ∧ ending = result := by
  have found (calls : List LinkCall) (member : .written sent field ending ∈ calls) :
      informedIn calls ≠ [] := by
    have said : sent ++ field ∈ saidIn calls :=
      mem_saidIn_iff.mpr ⟨sent, field, ⟨ending, member⟩, rfl⟩
    exact List.ne_nil_of_mem (List.mem_filter.mpr ⟨said, informs⟩)
  -- If one write came before the other it would stand among the calls that are silent.
  rcases List.append_eq_append_iff.mp same with ⟨between, rfl, rest⟩ | ⟨between, rfl, rest⟩
  · cases between with
    | nil =>
      cases rest
      simp
    | cons call between =>
      obtain ⟨-, rfl⟩ := List.cons.inj rest
      exact absurd silentAfter (found _ (by simp))
  · cases between with
    | nil =>
      cases rest
      simp
    | cons call between =>
      obtain ⟨rfl, -⟩ := List.cons.inj rest
      exact absurd silentBefore (found _ (by simp))

theorem repliesIn_append_of_silent {earlier : List LinkCall} (silent : saidIn earlier = [])
    (later : List LinkCall) : repliesIn (earlier ++ later) = repliesIn later := by
  induction earlier using saidIn.induct with
  | case1 => rfl
  | case2 header body result rest ih => cases silent
  | case3 call rest other ih =>
    rw [saidIn] at silent
    · rw [List.cons_append, repliesIn]
      · exact ih silent
      · exact other
    · exact other

section Asking

variable {header body : Bytes} {reply : PduType} {calls : List LinkCall}
variable {result : Except Error Bytes}

/-- Calls of which the first that sends anything sends this PDU, and those after it no information
PDU. Before it no field is heard. -/
def SaysOnce (header body : Bytes) (calls : List LinkCall) : Prop :=
  ∃ turn sent waited, calls = turn ++ .written header body sent :: waited ∧ saidIn turn = [] ∧
    fieldsOf (heardIn turn) = [] ∧ informedIn waited = []

theorem Asks.saysOnce (asks : Asks header body reply calls result) :
    SaysOnce header body calls := by
  cases asks with
  | unsent error => exact ⟨[], _, [], rfl, rfl, rfl, rfl⟩
  | sent waits => exact ⟨[], _, _, rfl, rfl, rfl, waits.informedIn_eq_nil⟩

theorem AsksInTurn.saysOnce (asks : AsksInTurn header body reply calls result) :
    informedIn calls = [] ∨ SaysOnce header body calls := by
  cases asks with
  | noTurn turn => exact .inl turn.informedIn_eq_nil
  | turn turn asks =>
    obtain ⟨before, sent, waited, rfl, silent, unheard, quiet⟩ := asks.saysOnce
    refine .inr ⟨_ ++ before, sent, waited, (List.append_assoc ..).symm, ?_, ?_, quiet⟩
    · rw [saidIn_append, silent, List.append_nil]
      cases turn with
      | taken symm => rfl
    · rw [heardIn_append, fieldsOf_append, turn.fields, unheard, List.append_nil]

theorem AsksAs.saysOnce {role : Role} (asks : AsksAs role header body reply calls result) :
    informedIn calls = [] ∨ SaysOnce header body calls := by
  cases role with
  | target => exact AsksInTurn.saysOnce asks
  | initiator => exact .inr (Asks.saysOnce asks)

end Asking

theorem Performs.transmit_saysOnce {header body : Bytes} {before after : Connection}
    {calls : List LinkCall} {result : Except Error (Option Bytes)}
    (performs : Performs (.transmit header body) before calls result after) :
    informedIn calls = [] ∨ SaysOnce (before.information.encode ++ header) body calls := by
  cases performs with
  | refused needed missing => exact .inl rfl
  | unconfirmed connected asks => exact asks.saysOnce
  | confirmed connected asks ending =>
    have passed : informedIn [.written PduHeader.symm.encode [] ending] = [] := rfl
    rcases asks.saysOnce with silent | ⟨turn, sent, waited, rfl, silent, unheard, quiet⟩
    · rw [informedIn_append, silent, passed]
      exact .inl rfl
    · refine .inr ⟨turn, sent, waited ++ _, List.append_assoc .., silent, unheard, ?_⟩
      rw [informedIn_append, quiet, passed]
      rfl

/-! ### Plans without a transmission -/

theorem Carries.informedIn_eq_nil {before after : Connection} {plan : List Operation}
    {calls : List LinkCall} {answers : List (Option Bytes)}
    (carries : Carries before plan calls answers after)
    (silent : ∀ header body, .transmit header body ∉ plan) : informedIn calls = [] := by
  induction carries with
  | start => rfl
  | next carries performs ih =>
    have earlier := ih fun header body member => silent header body (List.mem_append_left _ member)
    rw [informedIn_append, earlier, performs.informedIn_eq_nil]
    · rfl
    · rintro header body rfl
      exact silent header body (List.mem_append_right _ List.mem_cons_self)

theorem Stops.informedIn_eq_nil {before after : Connection} {plan : List Operation}
    {calls : List LinkCall} {error : Error} (stops : Stops before plan calls error after)
    (silent : ∀ header body, .transmit header body ∉ plan) : informedIn calls = [] := by
  cases stops with
  | here split carries performs =>
    subst split
    have earlier := carries.informedIn_eq_nil fun header body member =>
      silent header body (List.mem_append_left _ member)
    rw [informedIn_append, earlier, performs.informedIn_eq_nil]
    · rfl
    · rintro header body rfl
      exact silent header body (List.mem_append_right _ List.mem_cons_self)

namespace Snep

/-- Between these calls success was reported, and the report was acknowledged in the later ones. -/
structure Acknowledged (calls earlier later : List LinkCall) : Prop where
  reported : ∃ dsap ssap ns nr, calls = earlier ++
    .written (Reply.information dsap ssap ns nr (header success 0)) [] (.ok ()) :: later
  confirmed : ∃ receiveReady ∈ heardIn later, PduHeader.typeOf receiveReady = .ok .receiveReady

theorem isOf_information (dsap ssap : Sap) (ns nr : Seq) (field : Bytes) :
    PduHeader.isOf .information (Reply.information dsap ssap ns nr field ++ []) = true := by
  rw [List.append_nil, Reply.information, PduHeader.isOf_encode _ _ rfl]
  rfl

theorem Acknowledged.informs {calls earlier later : List LinkCall}
    (acknowledged : Acknowledged calls earlier later) : informedIn calls ≠ [] := by
  obtain ⟨dsap, ssap, ns, nr, rfl⟩ := acknowledged.reported
  intro silent
  rw [informedIn_append, List.append_eq_nil_iff] at silent
  have informed := List.filter_eq_nil_iff.mp silent.2 _ List.mem_cons_self
  exact informed (isOf_information dsap ssap ns nr _)

theorem requested_fields {timeoutMs : Nat} {before ready after : Connection}
    {activation exchange : List LinkCall} {field : Bytes}
    (activates : Performs (.activate timeoutMs) before activation (.ok none) ready)
    (carries : Carries ready (pullPlan timeoutMs) exchange [none, some field] after) :
    fieldsOf (heardIn (activation ++ exchange)) = [field] := by
  obtain rfl := activates.activation
  obtain ⟨accepting, receiving, accepted, rfl, accepts, receives⟩ := carries_pullPlan carries
  have heard : heardIn [.activated timeoutMs (.ok ())] = [] := rfl
  rw [heardIn_append, heardIn_append, heard, List.nil_append, fieldsOf_append,
    accepts.accept_fields, receives.receive_fields]
  rfl

/-- Of the ways in which a pull can end only the last one fits. -/
theorem Pulls.acknowledged {acceptShifted : Bool} {timeoutMs : Nat} {before after : Connection}
    {calls earlier later : List LinkCall} {result : Except Error Bytes}
    (pulls : Pulls acceptShifted timeoutMs before calls result after)
    (acknowledged : Acknowledged calls earlier later) :
    ∃ field object sent, fieldsOf (heardIn earlier) = [field] ∧
      IsPut object (meant acceptShifted field) ∧
      later.getLast? = some (.written PduHeader.symm.encode [] sent) ∧
      result = sent.map fun _ => object := by
  -- A pull that sends no information PDU has not reported success.
  cases pulls with
  | unactivated performs => exact absurd (performs.informedIn_eq_nil nofun) acknowledged.informs
  | stopped activates stops =>
    have silent := stops.informedIn_eq_nil (by simp [pullPlan])
    have unsaid := activates.informedIn_eq_nil nofun
    exact absurd (by rw [informedIn_append, silent, unsaid]; rfl) acknowledged.informs
  | rejected activates carries rejects =>
    obtain ⟨dsap, ssap, ns, nr, -, silent, -⟩ := requested activates carries
    exact absurd silent acknowledged.informs
  | @answered activation exchange responding ready between _ field object ending activates carries
      reads responds =>
    -- The response is sent once, so what was taken for the report of success is that.
    obtain ⟨_, _, _, _, connection, silent, -⟩ := requested activates carries
    rcases responds.transmit_saysOnce with quiet | ⟨turn, sent, waited, rfl, unsaid, unheard, quiet⟩
    · refine absurd ?_ acknowledged.informs
      rw [← List.append_assoc, informedIn_append, silent, quiet]
      rfl
    · obtain ⟨dsap, ssap, ns, nr, same⟩ := acknowledged.reported
      have unsaidBefore : informedIn (activation ++ exchange ++ turn) = [] := by
        rw [informedIn_append, silent, informedIn, unsaid]
        rfl
      rw [← List.append_assoc, ← List.append_assoc] at same
      obtain ⟨rfl, rfl, -⟩ := eq_of_informs_once unsaidBefore quiet
        (isOf_information dsap ssap ns nr _) same
      -- A receive-ready behind it confirms it, and then nothing but the SYMM is left to be sent.
      obtain ⟨receiveReady, member, typed⟩ := acknowledged.confirmed
      have connected : between.phase = .connected := congrArg Connection.phase connection
      rcases responds.transmit_cases connected with ⟨missing, -, -⟩ |
        ⟨_, waiting, sent, -, ends, rfl, -⟩
      · rw [repliesIn_append_of_silent unsaid] at missing
        have none := List.find?_eq_none.mp missing receiveReady member
        exact absurd (PduHeader.isOf_iff.mpr typed) none
      · refine ⟨field, object, sent, ?_, readRequest_eq_ok_iff.mp reads, ?_, ?_⟩
        · rw [heardIn_append, fieldsOf_append, unheard, List.append_nil]
          exact requested_fields activates carries
        · rcases List.eq_nil_or_concat later with rfl | ⟨behind, last, rfl⟩
          · cases member
          · rw [List.concat_eq_append, ← List.cons_append, ← List.append_assoc] at ends
            obtain ⟨-, ⟨rfl⟩⟩ := List.append_inj' ends rfl
            rw [List.concat_eq_append, List.getLast?_concat]
        · cases sent <;> rfl

end Snep

section Observation

variable {σ : Type} [Host σ] [PeerLink σ] {before after : Endpoint (Observed σ)}

/-- Once the success of a pull was acknowledged, its last call passes the turn on. If that SYMM is
written, the pull answers the object of the one request it has heard; if not, it fails, and the
object is gone though the peer counts it as delivered. -/
theorem acknowledged_object_rests_on_turn {acceptShifted : Bool} {timeoutMs patience : Nat}
    {result : Except Error Bytes}
    (ended : (Snep.pullWithin acceptShifted timeoutMs patience before).ended =
      some (result, after)) :
    ∃ calls, after.link.calls = before.link.calls ++ calls ∧
      ∀ earlier later, Snep.Acknowledged calls earlier later →
        ∃ field object sent, fieldsOf (heardIn earlier) = [field] ∧
          Snep.IsPut object (Snep.meant acceptShifted field) ∧
          later.getLast? = some (.written PduHeader.symm.encode [] sent) ∧
          result = sent.map fun _ => object := by
  obtain ⟨calls, seen, pulls⟩ := (ifEnds_iff _ _).mp
    (Recording.observed.pullWithin_pulls acceptShifted timeoutMs) result after ended
  exact ⟨calls, seen, fun earlier later acknowledged => pulls.acknowledged acknowledged⟩

end Observation

/-! ### A link that breaks off -/

/-- Brings one octet and acknowledges its success over a link that fails with the ninth call, which
passes the turn on. -/
def breakingPeer : Observed (Tapped (Bench PeerScript)) :=
  let script := [Reply.pdu 0x04 .connect 0x20,
    Reply.information 0x04 0x20 0 0 (Reply.putRequest [0x78]), Reply.pdu 0 .symm 0,
    Reply.receiveReady 0x04 0x20 1]
  { inner := { inner := { device := { inbound := script.map .ok } }, passing := 8, failing := 1 } }

/-- What a pull from it does up to the report of success. -/
def callsUpToSuccess : List LinkCall :=
  [.activated 1000 (.ok ()), .read (.ok (Reply.pdu 0x04 .connect 0x20)),
    .written (Reply.pdu 0x20 .cc 0x04) [] (.ok ()),
    .read (.ok (Reply.information 0x04 0x20 0 0 (Reply.putRequest [0x78]))),
    .written (Reply.receiveReady 0x20 0x04 1) [] (.ok ()), .read (.ok (Reply.pdu 0 .symm 0))]

/-- What it does after that. -/
def callsAfterSuccess : List LinkCall :=
  [.read (.ok (Reply.receiveReady 0x04 0x20 1)),
    .written PduHeader.symm.encode [] (.error Tapped.injected)]

theorem pull_from_breakingPeer :
    ∃ after, (Snep.pullWithin true 1000 9 { link := breakingPeer }).ended =
        some (.error Tapped.injected, after) ∧
      Snep.Acknowledged after.link.calls callsUpToSuccess callsAfterSuccess := by
  have ends : (Snep.pullWithin true 1000 9 { link := breakingPeer }).ended.map
      (fun (result, after) => (result, after.link.calls)) =
        some (.error Tapped.injected, callsUpToSuccess ++
          .written (Reply.information 0x20 0x04 0 1 (Snep.header Snep.success 0)) [] (.ok ()) ::
            callsAfterSuccess) := by
    decide +kernel
  obtain ⟨⟨result, after⟩, ended, summary⟩ := Option.map_eq_some_iff.mp ends
  obtain ⟨rfl, calls⟩ := Prod.mk.inj summary
  exact ⟨after, ended, ⟨_, _, _, _, calls⟩, _, List.mem_cons_self, rfl⟩

/-- The pull fails although the request was valid and its success acknowledged. -/
theorem acknowledged_object_is_dropped :
    ¬∀ result after, (Snep.pullWithin true 1000 9 { link := breakingPeer }).ended =
        some (result, after) →
      ∀ earlier later field object, Snep.Acknowledged after.link.calls earlier later →
        field ∈ fieldsOf (heardIn earlier) → Snep.IsPut object (Snep.meant true field) →
        result = .ok object := by
  intro kept
  obtain ⟨after, ended, acknowledged⟩ := pull_from_breakingPeer
  have isPut : Snep.IsPut [0x78] (Snep.meant true (Reply.putRequest [0x78])) :=
    ⟨by decide, [], by decide⟩
  have answered := kept _ after ended _ _ (Reply.putRequest [0x78]) [0x78] acknowledged
    List.mem_cons_self isPut
  cases answered

theorem breakingPeer_drops_acknowledged_object :
    ∃ after object, (Snep.pullWithin true 1000 9 { link := breakingPeer }).ended =
        some (.error Tapped.injected, after) ∧
      Snep.Acknowledged after.link.calls callsUpToSuccess callsAfterSuccess ∧
      Snep.IsPut object (Snep.meant true (Reply.putRequest [0x78])) ∧
      callsAfterSuccess.getLast? =
        some (.written PduHeader.symm.encode [] (.error Tapped.injected)) := by
  obtain ⟨after, ended, acknowledged⟩ := pull_from_breakingPeer
  obtain ⟨calls, seen, rests⟩ := acknowledged_object_rests_on_turn ended
  obtain rfl : after.link.calls = calls := seen
  obtain ⟨field, object, sent, heard, isPut, last, failed⟩ := rests _ _ acknowledged
  obtain rfl : Reply.putRequest [0x78] = field := List.singleton_inj.mp heard
  exact ⟨after, object, ended, acknowledged, isPut, rfl⟩

end NfcLink
