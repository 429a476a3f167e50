import NfcLink.Proofs.Llcp.Delivery

/-!
# Exchanges of PDUs

The operations of an endpoint whose link delivers what they wait for: each takes its
frames from the front of what is to come, sends its PDUs, and leaves a connection
that is known from these frames.
-/
namespace NfcLink

open NfcLink.Action Outcome

namespace Supply

variable {σ : Type} [Host σ] [PeerLink σ] {timeouts : List Nat} {supply : Supply σ timeouts}
variable {settings : LinkSettings} {looks : Nat} {toCome symms spoken : List Bytes}
variable {connection : Connection} {endpoint : Endpoint σ} {patience timeoutMs : Nat}

namespace Stands

theorem onlyConnected (connected : connection.phase = .connected)
    (stands : supply.Stands settings looks toCome spoken connection endpoint) :
    ((Endpoint.onlyConnected : Action (Endpoint σ) Unit) patience endpoint).Answers ()
      (supply.Stands settings looks toCome spoken connection) := by
  unfold Endpoint.onlyConnected
  rw [Endpoint.current_bind, if_pos (stands.connection ▸ connected)]
  exact answers_pure stands

theorem enter (stands : supply.Stands settings looks toCome spoken connection endpoint)
    (phase : Phase) :
    (Endpoint.enter phase patience endpoint).Answers ()
      (supply.Stands settings looks toCome spoken { connection with phase }) := by
  unfold Endpoint.enter
  rw [Endpoint.current_bind]
  by_cases same : endpoint.connection.phase = phase
  · rw [if_pos same]
    refine ⟨endpoint, rfl, stands.link, stands.settings, ?_⟩
    rw [← same, stands.connection]
  · rw [if_neg same, note_bind]
    exact (stands.record _).update _

theorem conclude {handshake : Action (Endpoint σ) Unit} (connection : Connection) (success : Phase)
    (answers : (handshake patience endpoint).Answers ()
      (supply.Stands settings looks toCome spoken connection)) :
    (Endpoint.conclude handshake success patience endpoint).Answers ()
      (supply.Stands settings looks toCome spoken { connection with phase := success }) := by
  obtain ⟨after, done, stands⟩ := answers
  unfold Endpoint.conclude
  rw [bind_of_done (attempt_of_done done)]
  exact stands.enter success

theorem transferDeadline (member : settings.transferTimeoutMs ∈ timeouts)
    (stands : supply.Stands settings (looks + 1) toCome spoken connection endpoint) :
    ∃ deadline, supply.Ahead deadline ∧
      ((Endpoint.transferDeadline : Action (Endpoint σ) Deadline) patience endpoint).Answers
        deadline (supply.Stands settings looks toCome spoken connection) := by
  have same := stands.settings
  subst same
  exact stands.deadline member

theorem activate (stands : supply.Stands settings looks toCome spoken connection endpoint) :
    (Endpoint.activate timeoutMs patience endpoint).Answers ()
      (supply.Stands settings looks toCome spoken { connection with phase := .activating }) := by
  unfold Endpoint.activate
  apply answers_bind (stands.enter .activating)
  rintro state ⟨⟨written, holds, filtered⟩, settings, connection⟩
  apply answers_onFailure
  apply answers_on
  apply (supply.activate holds timeoutMs patience).mono
  intro link holds
  exact ⟨⟨written, holds, filtered⟩, settings, connection⟩

/-! ### What the operations answer -/

section Delivered

variable (allowed : settings.Allows symms.length) (absorbed : ∀ symm ∈ symms, IsSymm symm)
  (enough : symms.length < patience)
include allowed absorbed enough

theorem await {deadline : Deadline} (ahead : supply.Ahead deadline) {pdu : Bytes}
    {type : PduType} (typed : PduHeader.typeOf pdu = .ok type) (other : type ≠ .symm)
    (stands : supply.Stands settings (symms.length + 1 + looks) (symms ++ pdu :: toCome) spoken
      connection endpoint) :
    (Endpoint.await [type] deadline patience endpoint).Answers pdu
      (supply.Stands settings looks toCome spoken connection) := by
  have unwanted : PduType.symm ∉ [type] := by
    intro member
    exact other (List.mem_singleton.mp member).symm
  unfold Endpoint.await
  rw [patience_bind]
  exact stands.awaitFrom ahead unwanted absorbed typed List.mem_cons_self enough
    ((Nat.zero_add _).symm ▸ allowed)

theorem accept (member : timeoutMs ∈ timeouts) {connect field : Bytes} {inbound : PduHeader}
    (typed : PduHeader.typeOf connect = .ok .connect)
    (parsed : PduHeader.split connect = .ok (inbound, field))
    (stands : supply.Stands settings (symms.length + 1 + looks + 1) (symms ++ connect :: toCome)
      spoken connection endpoint) :
    (Endpoint.accept timeoutMs patience endpoint).Answers ()
      (supply.Stands settings looks toCome
        (spoken ++ [PduHeader.encode ⟨inbound.ssap, .cc, inbound.dsap, none⟩])
        ⟨.target, .connected, inbound.ssap, inbound.dsap, 0, 0⟩) := by
  have header : PduHeader.parse connect = .ok inbound := by
    rw [PduHeader.parse, parsed]
    rfl
  unfold Endpoint.accept
  apply answers_bind (stands.update _)
  intro state stands
  apply answers_bind (stands.enter .connecting)
  intro state stands
  obtain ⟨deadline, ahead, set⟩ := stands.deadline member
  apply answers_bind set
  intro state stands
  apply Stands.conclude ⟨.target, .connecting, inbound.ssap, inbound.dsap, 0, 0⟩
  unfold Endpoint.answerConnect
  apply answers_bind (stands.await allowed absorbed enough ahead typed (by simp))
  intro state stands
  rw [header, lift_ok_bind]
  apply answers_bind (stands.update _)
  intro state stands
  apply (stands.sendPlain .cc [] rfl (by simp)).mono
  intro state stands
  rw [List.append_nil] at stands
  exact stands

theorem connect (member : timeoutMs ∈ timeouts) {turn cc : Bytes} (symm : IsSymm turn)
    (typed : PduHeader.typeOf cc = .ok .cc)
    (stands : supply.Stands settings (symms.length + 1 + looks + 1)
      (turn :: (symms ++ cc :: toCome)) spoken connection endpoint) :
    (Endpoint.connect timeoutMs patience endpoint).Answers ()
      (supply.Stands settings looks toCome
        (spoken ++ [PduHeader.encode ⟨exchangeService, .connect, initiatorAddress, none⟩ ++
          serviceNameParameter :: UInt8.ofNat serviceName.length :: serviceName])
        ⟨.initiator, .connected, exchangeService, initiatorAddress, 0, 0⟩) := by
  unfold Endpoint.connect
  apply answers_bind (stands.update _)
  intro state stands
  apply answers_bind (stands.enter .connecting)
  intro state stands
  obtain ⟨deadline, ahead, set⟩ := stands.deadline member
  apply answers_bind set
  intro state stands
  apply Stands.conclude ⟨.initiator, .connecting, exchangeService, initiatorAddress, 0, 0⟩
  unfold Endpoint.proposeConnect
  apply answers_bind (stands.takeTurn symm)
  intro state stands
  apply answers_bind (stands.sendPlain .connect _ rfl (by simp))
  intro state stands
  apply answers_bind (stands.await allowed absorbed enough ahead typed (by simp))
  exact fun state stands => ⟨state, rfl, stands⟩

/-- A target takes one SYMM before it sends. -/
theorem transmit (member : settings.transferTimeoutMs ∈ timeouts)
    (connected : connection.phase = .connected) (turns : List Bytes) {receiveReady : Bytes}
    (turn : connection.role = .target → ∃ symm, IsSymm symm ∧ turns = [symm])
    (first : connection.role ≠ .target → turns = [])
    (typed : PduHeader.typeOf receiveReady = .ok .receiveReady) (header body : Bytes)
    (stands : supply.Stands settings (symms.length + 1 + looks + 1)
      (turns ++ (symms ++ receiveReady :: toCome)) spoken connection endpoint) :
    (Endpoint.transmit header body patience endpoint).Answers ()
      (supply.Stands settings looks toCome
        (spoken ++ [PduHeader.encode ⟨connection.dsap, .information, connection.ssap,
          some (connection.ns, connection.nr)⟩ ++ header ++ body])
        { connection with ns := connection.ns.next }) := by
  let information : PduHeader :=
    ⟨connection.dsap, .information, connection.ssap, some (connection.ns, connection.nr)⟩
  have informs : speaks (information.encode ++ header ++ body) = true := by
    rw [List.append_assoc]
    exact speaks_of_typeOf (PduHeader.typeOf_encode information (header ++ body) rfl) (by simp)
  -- What follows once it is our turn is the same for both roles.
  have sends : ∀ state, supply.Stands settings (symms.length + 1 + looks)
      (symms ++ receiveReady :: toCome) spoken connection state →
      ∀ deadline, supply.Ahead deadline →
      ((do
        Endpoint.sendPdu (information.encode ++ header) body
        discard (Endpoint.await [.receiveReady] deadline)
        Endpoint.update fun connection => { connection with ns := connection.ns.next }
        let after ← Endpoint.current
        Host.note (.acknowledged after.ns)
        Endpoint.passTurn) patience state).Answers () (supply.Stands settings looks toCome
          (spoken ++ [information.encode ++ header ++ body])
          { connection with ns := connection.ns.next }) := by
    intro state stands deadline ahead
    apply answers_bind (stands.sendPdu _ _ informs)
    intro state stands
    have acknowledged := stands.await allowed absorbed enough ahead typed (by simp)
    apply answers_bind (answers_bind acknowledged fun state stands => ⟨state, rfl, stands⟩)
    intro state stands
    apply answers_bind (stands.update _)
    intro state stands
    rw [Endpoint.current_bind, note_bind]
    exact (stands.record _).passTurn
  unfold Endpoint.transmit
  apply answers_bind (stands.onlyConnected connected)
  intro state stands
  obtain ⟨deadline, ahead, set⟩ := stands.transferDeadline member
  apply answers_bind set
  intro state stands
  rw [Endpoint.current_bind, stands.connection]
  by_cases target : connection.role = .target
  · obtain ⟨symm, pass, rfl⟩ := turn target
    simp only [if_pos target]
    apply answers_bind (stands.takeTurn pass)
    exact fun state stands => sends state stands deadline ahead
  · obtain rfl := first target
    simp only [if_neg target]
    exact sends state stands deadline ahead

theorem receive (member : settings.transferTimeoutMs ∈ timeouts)
    (connected : connection.phase = .connected) {pdu field : Bytes} {inbound : PduHeader}
    {ns nr : Seq} (typed : PduHeader.typeOf pdu = .ok .information)
    (parsed : PduHeader.split pdu = .ok (inbound, field))
    (numbered : inbound.numbers = some (ns, nr))
    (stands : supply.Stands settings (symms.length + 1 + looks + 1) (symms ++ pdu :: toCome)
      spoken connection endpoint) :
    (Endpoint.receive patience endpoint).Answers field
      (supply.Stands settings looks toCome
        (spoken ++ [PduHeader.encode ⟨inbound.ssap, .receiveReady, inbound.dsap,
          some (0, ns.next)⟩])
        { connection with
          dsap := inbound.ssap, ssap := inbound.dsap, nr := connection.nr.next }) := by
  unfold Endpoint.receive
  apply answers_bind (stands.onlyConnected connected)
  intro state stands
  obtain ⟨deadline, ahead, set⟩ := stands.transferDeadline member
  apply answers_bind set
  intro state stands
  apply answers_bind (stands.await allowed absorbed enough ahead typed (by simp))
  intro state stands
  rw [parsed, lift_ok_bind]
  apply answers_bind (stands.update _)
  intro state stands
  have acknowledges := speaks_of_typeOf (PduHeader.typeOf_encode
    ⟨inbound.ssap, .receiveReady, inbound.dsap, some (0, ns.next)⟩ [] rfl) (by simp)
  -- The numbers of an information PDU are there, so the default of the code is not used.
  have named : inbound.ns.getD 0 = ns := by rw [PduHeader.ns, numbered]; rfl
  simp only [named]
  apply answers_bind (stands.sendPdu _ _ acknowledges)
  intro state stands
  apply answers_bind (stands.update _)
  intro state stands
  rw [List.append_nil] at stands
  exact answers_pure stands

end Delivered

end Stands

end Supply

namespace Delivery

variable {σ : Type} [Host σ] [PeerLink σ] {timeouts : List Nat} {delivery : Delivery σ timeouts}
variable {settings : LinkSettings} {looks : Nat} {toCome spoken : List Bytes}
variable {connection : Connection} {endpoint : Endpoint σ} {patience : Nat}

/-! ### A release that may fail -/

theorem Sent.record (sent : delivery.Sent spoken endpoint) (notice : Notice) :
    delivery.Sent spoken (Host.record notice endpoint) := by
  obtain ⟨looks, toCome, written, holds, begins⟩ := sent
  exact ⟨looks, toCome, written, delivery.record holds notice, begins⟩

theorem Sent.earlier {more : List Bytes} (sent : delivery.Sent (spoken ++ more) endpoint) :
    delivery.Sent spoken endpoint := by
  obtain ⟨looks, toCome, written, holds, begins⟩ := sent
  exact ⟨looks, toCome, written, holds, (List.prefix_append spoken more).trans begins⟩

theorem enter_stays (phase : Phase) :
    Stays (delivery.Sent spoken) patience (Endpoint.enter phase) := by
  intro state sent
  unfold Endpoint.enter
  rw [Endpoint.current_bind]
  by_cases same : state.connection.phase = phase
  · rw [if_pos same]
    exact sent
  · rw [if_neg same, note_bind]
    exact sent.record _

theorem conclude_ends {handshake : Action (Endpoint σ) Unit} (success : Phase)
    (ends : (handshake patience endpoint).Ends fun _ after => delivery.Sent spoken after) :
    (Endpoint.conclude handshake success patience endpoint).Ends
      fun _ after => delivery.Sent spoken after := by
  unfold Endpoint.conclude
  apply ends_bind (ends_attempt ends)
  intro answer
  cases answer with
  | ok _ => exact enter_stays success
  | error error => exact stays_bind (enter_stays .idle) fun _ => stays_fail error

end Delivery

namespace Supply.Stands

variable {σ : Type} [Host σ] [PeerLink σ] {timeouts : List Nat} {delivery : Delivery σ timeouts}
variable {settings : LinkSettings} {looks : Nat} {toCome spoken : List Bytes}
variable {connection : Connection} {endpoint : Endpoint σ} {patience : Nat}

theorem sent (stands : delivery.Stands settings looks toCome spoken connection endpoint) :
    delivery.Sent spoken endpoint := by
  obtain ⟨written, holds, rfl⟩ := stands.link
  exact ⟨looks, toCome, written, holds, List.prefix_refl _⟩

theorem readPdu_of_none (patience : Nat)
    (stands : delivery.Stands settings looks [] spoken connection endpoint) :
    ∃ error after, Endpoint.readPdu patience endpoint = .failed error after ∧
      delivery.Sent spoken after := by
  obtain ⟨written, holds, rfl⟩ := stands.link
  obtain ⟨error, link, failed, holds⟩ := delivery.exhausted holds patience
  refine ⟨error, { endpoint with link }, ?_, looks, [], written, holds, List.prefix_refl _⟩
  simp only [Endpoint.readPdu, on, Endpoint.linkPart, failed]

theorem takeTurn_of_other (patience : Nat) {turn : Bytes} (other : ¬ IsSymm turn)
    (stands : delivery.Stands settings looks (turn :: toCome) spoken connection endpoint) :
    ∃ error after, Endpoint.takeTurn patience endpoint = .failed error after ∧
      delivery.Sent spoken after := by
  have read : (Endpoint.readPdu patience endpoint).Answers turn
      (delivery.Stands settings looks toCome spoken connection) := stands.readPdu
  obtain ⟨state, done, stands⟩ := read
  unfold Endpoint.takeTurn
  rw [bind_of_done done]
  cases typed : PduHeader.typeOf turn with
  | error error => exact ⟨error, state, rfl, stands.sent⟩
  | ok type =>
    have speaking : ¬ type = .symm := by
      rintro rfl
      exact other typed
    rw [lift_ok_bind, if_neg speaking]
    exact ⟨_, state, rfl, stands.sent⟩

theorem awaitFrom_ends {wanted : List PduType} {deadline : Deadline}
    (ahead : delivery.Ahead deadline) {rounds : Nat} (enough : toCome.length < rounds) (count : Nat)
    (stands : delivery.Stands settings (toCome.length + 1) toCome spoken connection endpoint) :
    (Endpoint.awaitFrom wanted deadline rounds count patience endpoint).Ends
      fun _ after => delivery.Sent spoken after := by
  -- The frames to come bound the rounds, because behind the last one a read fails.
  induction toCome generalizing rounds count endpoint with
  | nil =>
    obtain ⟨left, rfl⟩ := Nat.exists_eq_succ_of_ne_zero (Nat.ne_of_gt enough)
    unfold Endpoint.awaitFrom
    apply ends_of_answers (stands.expired ahead)
    intro state stands
    obtain ⟨error, after, failed, sent⟩ := stands.readPdu_of_none patience
    rw [if_neg Bool.false_ne_true, bind_apply, failed]
    exact sent
  | cons frame rest ih =>
    obtain ⟨left, rfl⟩ := Nat.exists_eq_succ_of_ne_zero (Nat.ne_of_gt (Nat.zero_lt_of_lt enough))
    unfold Endpoint.awaitFrom
    apply ends_of_answers (stands.expired ahead)
    intro state stands
    rw [if_neg Bool.false_ne_true]
    apply ends_of_answers stands.readPdu
    intro state stands
    cases typed : PduHeader.typeOf frame with
    | error error => exact stands.sent
    | ok type =>
      rw [lift_ok_bind, note_bind]
      by_cases member : type ∈ wanted
      · rw [if_pos member]
        exact (stands.record _).sent
      · rw [if_neg member]
        -- Past the cap the wait fails, below it one frame less is to come.
        by_cases other : type ≠ .symm
        · rw [if_pos other]
          exact (stands.record _).sent
        · rw [if_neg other, get_bind]
          split
          · rw [note_bind]
            exact ((stands.record _).record _).sent
          · apply ends_of_answers (stands.record _).passTurn
            intro state stands
            exact ih (Nat.lt_of_succ_lt_succ enough) (count + 1) stands

theorem release_ends (member : settings.transferTimeoutMs ∈ timeouts)
    (connected : connection.phase = .connected) (enough : toCome.length < patience)
    (stands : delivery.Stands settings (toCome.length + 1 + 1) toCome spoken connection endpoint) :
    (Endpoint.release patience endpoint).Ends fun _ after => delivery.Sent spoken after := by
  unfold Endpoint.release
  apply ends_of_answers (stands.onlyConnected connected)
  intro state stands
  apply ends_of_answers (stands.enter .disconnecting)
  intro state stands
  obtain ⟨deadline, ahead, set⟩ := stands.transferDeadline member
  apply ends_of_answers set
  intro state stands
  apply Delivery.conclude_ends
  -- The turn may not come, be something else, or come and be followed by anything.
  cases toCome with
  | nil =>
    obtain ⟨error, after, failed, sent⟩ := stands.readPdu_of_none patience
    unfold Endpoint.takeTurn
    rw [bind_apply, bind_apply, failed]
    exact sent
  | cons turn rest =>
    by_cases pass : IsSymm turn
    · apply ends_of_answers (stands.takeTurn pass)
      intro state stands
      apply ends_of_answers (stands.sendPlain .disc [] rfl (by simp))
      intro state stands
      have waited : (Endpoint.await [.dm] deadline patience state).Ends
          fun _ after => delivery.Sent spoken after := by
        unfold Endpoint.await
        rw [patience_bind]
        have last := stands.fewer (Nat.le_succ _)
        exact (last.awaitFrom_ends ahead (Nat.lt_of_succ_lt enough) 0).mono
          fun _ _ sent => sent.earlier
      exact ends_bind waited fun _ => stays_pure ()
    · obtain ⟨error, after, failed, sent⟩ := stands.takeTurn_of_other patience pass
      rw [bind_apply, failed]
      exact sent

end Supply.Stands

end NfcLink
