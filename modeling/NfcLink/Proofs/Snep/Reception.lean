import NfcLink.Proofs.Llcp.Exchange
import NfcLink.Proofs.Llcp.Script
import NfcLink.Proofs.Llcp.Success
import NfcLink.Proofs.Snep.Grammar

/-!
# Requests and their answers

On a link that delivers a SYMM and a receive-ready, a pull that has heard a request to put
reports success and answers the object. It turns any other request down without another
call, whatever the link is like.
-/
namespace NfcLink

open NfcLink.Action Outcome

namespace Snep

variable {σ : Type} [Host σ] [PeerLink σ] {acceptShifted : Bool} {request object : Bytes}
variable {patience : Nat} {endpoint : Endpoint σ}

/-- A request that cannot be read leaves nothing but entries in the journal. -/
theorem answerRequest_of_error {error : Error}
    (rejects : readRequest acceptShifted request = .error error) (patience : Nat)
    (endpoint : Endpoint σ) :
    ∃ notices, answerRequest acceptShifted request patience endpoint =
      .failed error (Host.recordAll notices endpoint) := by
  obtain ⟨notices, same⟩ := answerRequest_eq acceptShifted request patience endpoint
  rw [rejects] at same
  exact ⟨notices, same⟩

section Delivered

variable {timeouts : List Nat} {supply : Supply σ timeouts} {settings : LinkSettings}
variable {looks : Nat} {toCome symms spoken : List Bytes} {connection : Connection}

theorem hearRequest_answers {timeoutMs : Nat} (accepts : timeoutMs ∈ timeouts)
    (transfers : settings.transferTimeoutMs ∈ timeouts) {first second : List Bytes}
    (absorbed₁ : ∀ symm ∈ first, IsSymm symm) (absorbed₂ : ∀ symm ∈ second, IsSymm symm)
    (allowed₁ : settings.Allows first.length) (allowed₂ : settings.Allows second.length)
    (enough₁ : first.length < patience) (enough₂ : second.length < patience)
    {connect parameters pdu : Bytes} {proposal inbound : PduHeader} {ns nr : Seq}
    (connects : PduHeader.typeOf connect = .ok .connect)
    (proposes : PduHeader.split connect = .ok (proposal, parameters))
    (informs : PduHeader.typeOf pdu = .ok .information)
    (carries : PduHeader.split pdu = .ok (inbound, request))
    (numbered : inbound.numbers = some (ns, nr))
    (stands : supply.Stands settings
      (first.length + 1 + (second.length + 1 + looks + 1) + 1)
      (first ++ connect :: (second ++ pdu :: toCome)) spoken connection endpoint) :
    (hearRequest timeoutMs patience endpoint).Answers request
      (supply.Stands settings looks toCome
        (spoken ++ [PduHeader.encode ⟨proposal.ssap, .cc, proposal.dsap, none⟩] ++
          [PduHeader.encode ⟨inbound.ssap, .receiveReady, inbound.dsap, some (0, ns.next)⟩])
        ⟨.target, .connected, inbound.ssap, inbound.dsap, 0, 1⟩) := by
  unfold hearRequest
  apply answers_bind stands.activate
  intro state stands
  apply answers_bind (stands.accept allowed₁ absorbed₁ enough₁ accepts connects proposes)
  intro state stands
  exact stands.receive allowed₂ absorbed₂ enough₂ transfers rfl informs carries numbered

theorem answerRequest_answers (reads : readRequest acceptShifted request = .ok object)
    (transfers : settings.transferTimeoutMs ∈ timeouts) (connected : connection.phase = .connected)
    (target : connection.role = .target) {turn receiveReady : Bytes} (pass : IsSymm turn)
    (allowed : settings.Allows symms.length) (absorbed : ∀ symm ∈ symms, IsSymm symm)
    (enough : symms.length < patience)
    (acknowledges : PduHeader.typeOf receiveReady = .ok .receiveReady)
    (stands : supply.Stands settings (symms.length + 1 + looks + 1)
      (turn :: (symms ++ receiveReady :: toCome)) spoken connection endpoint) :
    (answerRequest acceptShifted request patience endpoint).Answers object
      (supply.Stands settings looks toCome
        (spoken ++ [connection.information.encode ++ header success 0])
        { connection with ns := connection.ns.next }) := by
  obtain ⟨notices, same⟩ := answerRequest_eq acceptShifted request patience endpoint
  rw [same, reads, lift_ok_bind]
  apply answers_bind ((stands.recordAll notices).transmit allowed absorbed enough transfers
    connected [turn] (fun _ => ⟨turn, pass, rfl⟩) (fun other => absurd target other) acknowledges
    (header success 0) [])
  intro state stands
  rw [List.append_nil] at stands
  exact answers_pure stands

end Delivered

/-! ### What the calls show -/

section Calls

variable {timeoutMs : Nat} {before ready after : Connection} {activation exchange : List LinkCall}

/-- When a request has come, its acknowledgement is the last call and nothing was said of its
object. -/
theorem requested (activates : Performs (.activate timeoutMs) before activation (.ok none) ready)
    (carries : Carries ready (pullPlan timeoutMs) exchange [none, some request] after) :
    ∃ dsap ssap ns nr, after = ⟨.target, .connected, ssap, dsap, 0, 1⟩ ∧
      informedIn (activation ++ exchange) = [] ∧
      [.read (.ok (Reply.information dsap ssap ns nr request)),
        .written (Reply.receiveReady ssap dsap ns.next) [] (.ok ())] <:+
          activation ++ exchange := by
  obtain ⟨accepting, receiving, accepted, rfl, accepts, receives⟩ := carries_pullPlan carries
  obtain ⟨_, _, rfl⟩ := accepts.acceptance
  obtain ⟨dsap, ssap, ns, nr, _, ⟨rfl⟩, rfl, last⟩ := receives.reception
  refine ⟨dsap, ssap, ns, nr, rfl, ?_, ?_⟩
  · simp only [informedIn_append, activates.informedIn_eq_nil nofun,
      accepts.informedIn_eq_nil nofun, receives.informedIn_eq_nil nofun, List.append_nil]
  · exact last.trans ((List.suffix_append ..).trans (List.suffix_append ..))

theorem hearRequest_reports (recording : Recording σ) :
    recording.Reports (hearRequest timeoutMs) patience endpoint fun calls result after =>
      ∀ request, result = .ok request → ∃ activation exchange ready,
        calls = activation ++ exchange ∧
        Performs (.activate timeoutMs) endpoint.connection activation (.ok none) ready ∧
        Carries ready (pullPlan timeoutMs) exchange [none, some request] after := by
  unfold hearRequest
  apply (Recording.activate_performs timeoutMs).bind
  · intro calls error after performs request failed
    cases failed
  intro activation answer activated activates
  apply (Recording.accept_performs timeoutMs).bind
  · intro calls error after performs request failed
    cases failed
  intro accepting answer accepted accepts
  apply Recording.receive_performs.mono
  rintro receiving _ after receives request rfl
  have started : Carries activated.connection [.accept timeoutMs] accepting [none]
    accepted.connection := Carries.start.next accepts
  have carried : Carries activated.connection (pullPlan timeoutMs) (accepting ++ receiving)
    [none, some request] after := started.next receives
  exact ⟨activation, accepting ++ receiving, activated.connection, rfl, activates, carried⟩

theorem answerRequest_reports (recording : Recording σ) :
    recording.Reports (answerRequest acceptShifted request) patience endpoint
      fun calls result after =>
        (∀ error, readRequest acceptShifted request = .error error → calls = []) ∧
        (∀ object, result = .ok object → Performs (.transmit (header success 0) [])
          endpoint.connection calls (.ok none) after) := by
  obtain ⟨notices, same⟩ := answerRequest_eq acceptShifted request patience endpoint
  apply Recording.Reports.noted same
  apply Recording.reports_lift
  · intro error rejects
    refine ⟨fun _ _ => rfl, ?_⟩
    intro object failed
    cases failed
  intro object reads
  have readable (error : Error) : readRequest acceptShifted request ≠ .error error := by
    intro rejects
    cases reads.symm.trans rejects
  apply (Recording.transmit_performs (header success 0) []).bind
  · intro calls error after transmits
    refine ⟨fun error rejects => absurd rejects (readable error), ?_⟩
    intro object failed
    cases failed
  · intro calls answer after transmits
    apply Recording.reports_pure
    rw [List.append_nil, ← Endpoint.recordAll_connection notices endpoint]
    exact ⟨fun error rejects => absurd rejects (readable error), fun _ _ => transmits⟩

end Calls

end Snep

section Observation

variable {σ : Type} [Host σ] [PeerLink σ] {timeouts : List Nat}

/-- Whatever the link did until a pull has heard an information field: if it then delivers a SYMM
and a receive-ready and takes what is written, the pull answers an object exactly if the field is a
request to put it, and fails with the first fault of the field if not. Success is reported exactly
once to a request that is accepted; on any other field the acknowledgement is the last call. -/
theorem pull_accepts_requests_to_put (supply : Supply σ timeouts) (acceptShifted : Bool)
    {timeoutMs patience looks : Nat} {before heard : Endpoint (Observed σ)} {field : Bytes}
    (hears : Snep.hearRequest timeoutMs patience before = .done field heard)
    (transfers : heard.settings.transferTimeoutMs ∈ timeouts) {turn receiveReady : Bytes}
    {symms later written : List Bytes} (pass : IsSymm turn)
    (absorbed : ∀ symm ∈ symms, IsSymm symm) (allowed : heard.settings.Allows symms.length)
    (enough : symms.length < patience)
    (acknowledges : PduHeader.typeOf receiveReady = .ok .receiveReady)
    (often : symms.length + 2 ≤ looks)
    (delivers : supply.holds looks (turn :: (symms ++ receiveReady :: later)) written
      heard.link.inner) :
    let pulled := Snep.pullWithin acceptShifted timeoutMs patience before
    (∀ object, (∃ after, pulled = .done object after) ↔
      Snep.IsPut object (Snep.meant acceptShifted field)) ∧
    (∀ error, (∃ after, pulled = .failed error after) ↔ Snep.Faulty acceptShifted field error) ∧
    ∃ hearing dsap ssap ns nr, heard.link.calls = before.link.calls ++ hearing ∧
      informedIn hearing = [] ∧
      [.read (.ok (Reply.information dsap ssap ns nr field)),
        .written (Reply.receiveReady ssap dsap ns.next) [] (.ok ())] <:+ hearing ∧
      (∀ object after, pulled = .done object after → ∃ answering,
        after.link.calls = heard.link.calls ++ answering ∧
        informedIn answering = [Reply.information ssap dsap 0 1 (Snep.header Snep.success 0)] ∧
        .written (Reply.information ssap dsap 0 1 (Snep.header Snep.success 0)) [] (.ok ()) ∈
          answering) ∧
      ∀ error after, pulled = .failed error after → after.link.calls = heard.link.calls := by
  intro pulled
  -- What is left of the pull begins with the field, in the state that it was heard in.
  have same : pulled = Snep.answerRequest acceptShifted field patience heard := by
    unfold pulled
    rw [Snep.pullWithin_eq, bind_of_done hears]
  obtain ⟨_, seen, opened⟩ := (ifEnds_iff _ _).mp
    (Snep.hearRequest_reports Recording.observed) _ heard (ended_eq_ok_iff.mpr hears)
  obtain ⟨activation, exchange, ready, rfl, activates, carries⟩ := opened field rfl
  obtain ⟨dsap, ssap, ns, nr, connection, silent, last⟩ := Snep.requested activates carries
  have accepts (object : Bytes) (isPut : Snep.IsPut object (Snep.meant acceptShifted field)) :
      ∃ after, pulled = .done object after := by
    obtain ⟨left, rfl⟩ : ∃ left, looks = symms.length + 1 + left + 1 :=
      ⟨looks - (symms.length + 2), by omega⟩
    have stands : supply.observed.Stands heard.settings (symms.length + 1 + left + 1)
        (turn :: (symms ++ receiveReady :: later)) (written.filter speaks) heard.connection heard :=
      ⟨⟨written, delivers, rfl⟩, rfl, rfl⟩
    have reads := Snep.readRequest_of_isPut isPut
    have connected := congrArg Connection.phase connection
    have target := congrArg Connection.role connection
    obtain ⟨after, done, -⟩ : (Snep.answerRequest acceptShifted field patience heard).Answers object
        _ :=
      Snep.answerRequest_answers reads transfers connected target pass allowed absorbed enough
        acknowledges stands
    exact ⟨after, same.trans done⟩
  have rejects (error : Error) (faulty : Snep.Faulty acceptShifted field error) :
      ∃ after, pulled = .failed error after := by
    obtain ⟨notices, failed⟩ :=
      Snep.answerRequest_of_error (Snep.readRequest_of_faulty faulty) patience heard
    exact ⟨_, same.trans failed⟩
  -- It comes to one end or the other as the field is a request to put or faulty, and to no third.
  have ends : (∃ object after, Snep.IsPut object (Snep.meant acceptShifted field) ∧
        pulled = .done object after) ∨
      ∃ error after, Snep.Faulty acceptShifted field error ∧ pulled = .failed error after := by
    rcases Snep.isPut_or_faulty acceptShifted field with ⟨object, isPut⟩ | ⟨error, faulty⟩
    · obtain ⟨after, done⟩ := accepts object isPut
      exact .inl ⟨object, after, isPut, done⟩
    · obtain ⟨after, failed⟩ := rejects error faulty
      exact .inr ⟨error, after, faulty, failed⟩
  refine ⟨fun object => ⟨?_, accepts object⟩, fun error => ⟨?_, rejects error⟩, _, dsap, ssap, ns,
    nr, seen, silent, last, ?_, ?_⟩
  · rintro ⟨after, done⟩
    rcases ends with ⟨found, _, isPut, other⟩ | ⟨_, _, -, other⟩ <;> cases done.symm.trans other
    exact isPut
  · rintro ⟨after, failed⟩
    rcases ends with ⟨_, _, -, other⟩ | ⟨found, _, faulty, other⟩ <;> cases failed.symm.trans other
    exact faulty
  · intro object after done
    rw [same] at done
    obtain ⟨answering, further, -, transmits⟩ := (ifEnds_iff _ _).mp
      (Snep.answerRequest_reports Recording.observed) _ after (ended_eq_ok_iff.mpr done)
    obtain ⟨-, once, _, -, exchanged⟩ := (transmits object rfl).transmission
    rw [connection] at once exchanged
    refine ⟨answering, further, ?_, exchanged.subset List.mem_cons_self⟩
    rw [once, List.append_nil]
    rfl
  · intro error after failed
    rcases ends with ⟨_, _, -, other⟩ | ⟨found, _, faulty, -⟩
    · cases failed.symm.trans other
    · rw [same] at failed
      obtain ⟨answering, further, quiet, -⟩ := (ifEnds_iff _ _).mp
        (Snep.answerRequest_reports Recording.observed) _ after (ended_eq_error_iff.mpr failed)
      rw [further, quiet found (Snep.readRequest_of_faulty faulty), List.append_nil]

end Observation

/-- Connects, brings a field, and delivers a SYMM and a receive-ready. -/
def askingPeer (field : Bytes) : Observed (Bench PeerScript) :=
  let script := [Reply.pdu 0x04 .connect 0x20, Reply.information 0x04 0x20 0 0 field,
    Reply.pdu 0 .symm 0, Reply.receiveReady 0x04 0x20 1]
  { inner := { device := { inbound := script.map .ok } } }

/-- The deadlines of a pull from it are not reached. -/
theorem askingPeer_in_time : ∀ timeoutMs ∈ [1000, 20000], timeoutMs ≠ 0 →
    1000000 < 0 + timeoutMs * nanosecondsPerMillisecond := by
  decide

theorem askingPeer_is_heard (field : Bytes) (looks : Nat) :
    ∃ heard written, Snep.hearRequest 1000 9 { link := askingPeer field } = .done field heard ∧
      heard.settings = {} ∧
      (PeerScript.delivery 0 1000000 askingPeer_in_time).holds looks
        [Reply.pdu 0 .symm 0, Reply.receiveReady 0x04 0x20 1] written heard.link.inner := by
  let symms : List Bytes := []
  have absorbed : ∀ symm ∈ symms, IsSymm symm := List.forall_mem_nil _
  have allowed : LinkSettings.Allows {} symms.length := LinkSettings.allows_of_uncapped rfl _
  have enough : symms.length < 9 := by decide
  have starts : (PeerScript.delivery 0 1000000 askingPeer_in_time).observed.Stands {}
      (symms.length + 1 + (symms.length + 1 + looks + 1) + 1)
      (symms ++ Reply.pdu 0x04 .connect 0x20 :: (symms ++ Reply.information 0x04 0x20 0 0 field ::
        [Reply.pdu 0 .symm 0, Reply.receiveReady 0x04 0x20 1])) [] {}
      { link := askingPeer field } :=
    ⟨⟨[], ⟨rfl, rfl, rfl, rfl, Nat.le_refl 0, Nat.zero_le _⟩, rfl⟩, rfl, rfl⟩
  have transfers : ({} : LinkSettings).transferTimeoutMs ∈ [1000, 20000] := by decide
  obtain ⟨heard, hears, ⟨written, holds, -⟩, settings, -⟩ :
      (Snep.hearRequest 1000 9 { link := askingPeer field }).Answers field _ :=
    Snep.hearRequest_answers List.mem_cons_self transfers absorbed absorbed allowed allowed enough
      enough rfl rfl rfl rfl rfl starts
  exact ⟨heard, written, hears, settings, holds⟩

/-- A request behind four stray octets is accepted, and a request to get is not. -/
theorem askingPeer_is_answered :
    let shifted : Bytes := [0, 0, 0, 0] ++ Reply.putRequest [0x78]
    let gets : Bytes := Snep.header Snep.getRequest 0
    (∃ after, Snep.pullWithin true 1000 9 { link := askingPeer shifted } = .done [0x78] after) ∧
    (∃ after, Snep.pullWithin true 1000 9 { link := askingPeer gets } =
      .failed (.opcodeMismatch Snep.putRequest Snep.getRequest) after) ∧
    Snep.IsPut [0x78] (Snep.meant true shifted) ∧
    Snep.Faulty true gets (.opcodeMismatch Snep.putRequest Snep.getRequest) := by
  intro shifted gets
  let symms : List Bytes := []
  have absorbed : ∀ symm ∈ symms, IsSymm symm := List.forall_mem_nil _
  have enough : symms.length < 9 := by decide
  have pass : IsSymm (Reply.pdu 0 .symm 0) := rfl
  have acknowledges : PduHeader.typeOf (Reply.receiveReady 0x04 0x20 1) = .ok .receiveReady := rfl
  have answered (field : Bytes) :
      (∀ object, (∃ after, Snep.pullWithin true 1000 9 { link := askingPeer field } =
        .done object after) ↔ Snep.IsPut object (Snep.meant true field)) ∧
      ∀ error, (∃ after, Snep.pullWithin true 1000 9 { link := askingPeer field } =
        .failed error after) ↔ Snep.Faulty true field error := by
    obtain ⟨heard, written, hears, settings, holds⟩ := askingPeer_is_heard field 2
    have transfers : heard.settings.transferTimeoutMs ∈ [1000, 20000] := by
      rw [settings]
      decide
    have allowed : heard.settings.Allows symms.length :=
      LinkSettings.allows_of_uncapped (congrArg LinkSettings.maxSymm settings) _
    obtain ⟨accepts, rejects, -⟩ := pull_accepts_requests_to_put
      (PeerScript.delivery 0 1000000 askingPeer_in_time).toSupply true hears transfers pass absorbed
      allowed enough acknowledges (Nat.le_refl 2) holds
    exact ⟨accepts, rejects⟩
  have isPut : Snep.IsPut [0x78] (Snep.meant true shifted) := ⟨by decide, [], by decide⟩
  have faulty : Snep.Faulty true gets (.opcodeMismatch Snep.putRequest Snep.getRequest) :=
    .code (by decide) (by decide) rfl (by decide)
  have accepted := ((answered shifted).1 [0x78]).mpr isPut
  have rejected := ((answered gets).2 (.opcodeMismatch Snep.putRequest Snep.getRequest)).mpr faulty
  exact ⟨accepted, rejected, isPut, faulty⟩

end NfcLink
