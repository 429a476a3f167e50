import NfcLink.Proofs.Llcp.Reports

/-!
# Operations are conducted as listed

Each operation of an endpoint, if it ends, was conducted in one of the ways of `Performs`,
on every link. On an observed link the calls are those that the observer has seen.
-/
namespace NfcLink

open NfcLink.Action Outcome

namespace Endpoint

variable {σ : Type} {patience : Nat} {endpoint : Endpoint σ}

theorem onlyConnected_of_connected (connected : endpoint.connection.phase = .connected) :
    onlyConnected patience endpoint = .done () endpoint := by
  unfold onlyConnected
  rw [current_bind, if_pos connected]
  rfl

theorem onlyConnected_of_other (other : endpoint.connection.phase ≠ .connected) :
    onlyConnected patience endpoint = .failed (.link .notConnected) endpoint := by
  unfold onlyConnected
  rw [current_bind, if_neg other]
  rfl

end Endpoint

namespace Recording

variable {σ α β : Type} [Host σ] [PeerLink σ] {recording : Recording σ}
variable {patience : Nat} {endpoint : Endpoint σ}
variable {kind : List LinkCall → Except Error β → Connection → Prop}

theorem onlyConnected_bind {next : Unit → Action (Endpoint σ) β}
    (refuse : endpoint.connection.phase ≠ .connected →
      kind [] (.error (.link .notConnected)) endpoint.connection)
    (rest : endpoint.connection.phase = .connected →
      recording.Reports (next ()) patience endpoint kind) :
    recording.Reports (Endpoint.onlyConnected >>= next) patience endpoint kind := by
  by_cases connected : endpoint.connection.phase = .connected
  · rw [Reports, bind_of_done (Endpoint.onlyConnected_of_connected connected)]
    exact rest connected
  · rw [Reports, bind_of_failed (Endpoint.onlyConnected_of_other connected)]
    exact ⟨[], recording.still endpoint.link, refuse connected⟩

theorem activate_performs (timeoutMs : Nat) :
    recording.Reports (Endpoint.activate timeoutMs) patience endpoint
      fun calls result connection =>
        Performs (.activate timeoutMs) endpoint.connection calls (result.map fun _ => none)
          connection := by
  have asked (between : Endpoint σ) :
      recording.Reports ((PeerLink.activate timeoutMs : Action σ Unit).on Endpoint.linkPart)
        patience between fun calls ending connection =>
          calls = [.activated timeoutMs ending] ∧ connection = between.connection := by
    apply ifEnds_on
    apply IfEnds.mono (recording.activated timeoutMs patience between.link)
    intro ending link spans
    exact ⟨_, spans, rfl, rfl⟩
  unfold Endpoint.activate onFailure
  apply enter_bind
  intro between entered
  apply (asked between).attempt_bind
  rintro calls ending called ⟨rfl, same⟩
  have performs : Performs (.activate timeoutMs) endpoint.connection _ _ _ :=
    .activated timeoutMs ending
  -- A call that fails takes the phase back, and that makes no further call.
  cases ending with
  | ok answer =>
    apply reports_pure
    rw [same, entered]
    exact performs
  | error error =>
    apply enter_bind
    intro last idle
    apply reports_fail
    rw [idle, same, entered]
    exact performs

theorem connect_performs (timeoutMs : Nat) :
    recording.Reports (Endpoint.connect timeoutMs) patience endpoint
      fun calls result connection =>
        Performs (.connect timeoutMs) endpoint.connection calls (result.map fun _ => none)
          connection := by
  unfold Endpoint.connect
  apply reports_update
  apply enter_bind
  intro between entered
  apply (after_quiet timeoutMs).bind
  intro deadline looked same
  have proposing : looked.connection = Connection.proposing := same.trans entered
  apply (conclude_reports (asksInTurn_reports
    (fun between kept => sendPlain_speaks .connect connectParameters (kept.trans proposing))
    .cc deadline)).mono
  rintro calls result connection ⟨_, ⟨answer, ⟨asks, rfl⟩, rfl⟩, rfl⟩
  rw [proposing]
  have performs : Performs (.connect timeoutMs) endpoint.connection _ _ _ := .proposed asks
  -- The CC itself is dropped; whether one came decides the phase.
  cases answer with
  | ok pdu => exact performs
  | error error => exact performs

theorem accept_performs (timeoutMs : Nat) :
    recording.Reports (Endpoint.accept timeoutMs) patience endpoint
      fun calls result connection =>
        Performs (.accept timeoutMs) endpoint.connection calls (result.map fun _ => none)
          connection := by
  unfold Endpoint.accept
  apply reports_update
  apply enter_bind
  intro between entered
  apply (after_quiet timeoutMs).bind
  intro deadline looked same
  have accepting : looked.connection = endpoint.connection.accepting := same.trans entered
  -- Once a CONNECT is read the addresses are the peer's, even if the CC is then not sent.
  have answers : recording.Reports (Endpoint.answerConnect deadline) patience looked
      fun calls result connection =>
        (∃ error, Hears .connect PduHeader.parse calls (.error error) ∧ result = .error error ∧
          connection = endpoint.connection.accepting) ∨
        ∃ heard inbound, Hears .connect PduHeader.parse heard (.ok inbound) ∧
          calls = heard ++ [.written ((endpoint.connection.rebound inbound).plain .cc).encode []
            result] ∧
          connection = endpoint.connection.accepting.rebound inbound := by
    unfold Endpoint.answerConnect
    rw [← bind_assoc]
    apply (hears_reports .connect PduHeader.parse deadline).bind
    · rintro calls error connection ⟨hears, kept⟩
      exact .inl ⟨error, hears, rfl, kept.trans accepting⟩
    · rintro calls inbound heard ⟨hears, kept⟩
      apply reports_update
      have rebound := congrArg (Connection.rebound · inbound) (kept.trans accepting)
      apply Reports.mono (sendPlain_speaks .cc [] rebound)
      rintro more result connection ⟨rfl, last⟩
      exact .inr ⟨calls, inbound, hears, rfl, last.trans rebound⟩
  apply (conclude_reports answers).mono
  rintro calls result connection ⟨before, ⟨error, hears, rfl, rfl⟩ |
    ⟨heard, inbound, hears, rfl, rfl⟩, rfl⟩
  · exact .unheard hears
  · exact .accepted hears result

theorem release_performs :
    recording.Reports Endpoint.release patience endpoint fun calls result connection =>
      Performs .release endpoint.connection calls (result.map fun _ => none) connection := by
  unfold Endpoint.release
  apply onlyConnected_bind
  · exact .refused rfl
  intro connected
  apply enter_bind
  intro between entered
  apply transferDeadline_quiet.bind
  intro deadline looked same
  have releasing := same.trans entered
  apply (conclude_reports (asksInTurn_reports
    (fun between kept => sendPlain_speaks .disc [] (kept.trans releasing)) .dm deadline)).mono
  rintro calls result connection ⟨_, ⟨answer, ⟨asks, rfl⟩, rfl⟩, rfl⟩
  rw [releasing]
  have performs := Performs.released connected asks
  cases answer with
  | ok pdu => exact performs
  | error error => exact performs

theorem acceptRelease_performs :
    recording.Reports Endpoint.acceptRelease patience endpoint fun calls result connection =>
      Performs .acceptRelease endpoint.connection calls (result.map fun _ => none)
        connection := by
  unfold Endpoint.acceptRelease
  apply onlyConnected_bind
  · exact .refused rfl
  intro connected
  apply enter_bind
  intro between entered
  apply transferDeadline_quiet.bind
  intro deadline looked same
  have releasing := same.trans entered
  have confirms : recording.Reports
      (do
        discard (Endpoint.await [.disc] deadline)
        Endpoint.sendPlain .dm [])
      patience looked fun calls result connection =>
        ((∃ error, Waits [.disc] calls (.error error) ∧ result = .error error) ∨
          ∃ waited pdu, Waits [.disc] waited (.ok pdu) ∧
            calls = waited ++ [.written (endpoint.connection.plain .dm).encode [] result]) ∧
        connection = looked.connection := by
    apply (discard_reports (await_reports [.disc] deadline)).unit_bind
    · rintro calls error connection ⟨waits, kept⟩
      exact ⟨.inl ⟨error, waits, rfl⟩, kept⟩
    · rintro calls pdu between ⟨waits, kept⟩
      apply Reports.mono (sendPlain_speaks .dm [] (kept.trans releasing))
      rintro more result connection ⟨rfl, last⟩
      exact ⟨.inr ⟨calls, pdu, waits, rfl⟩, last.trans kept⟩
  apply (conclude_reports confirms).mono
  rintro calls result _ ⟨before, ⟨⟨error, waits, rfl⟩ | ⟨waited, pdu, waits, rfl⟩, rfl⟩, rfl⟩
  · rw [releasing]
    exact .unreleased connected waits
  · have performs : Performs .acceptRelease endpoint.connection _ _ _ :=
      .releaseAccepted connected waits result
    rw [releasing]
    cases result with
    | ok answer => exact performs
    | error error => exact performs

theorem transmit_performs (header body : Bytes) :
    recording.Reports (Endpoint.transmit header body) patience endpoint
      fun calls result connection =>
        Performs (.transmit header body) endpoint.connection calls (result.map fun _ => none)
          connection := by
  unfold Endpoint.transmit
  apply onlyConnected_bind
  · exact .refused rfl
  intro connected
  apply transferDeadline_quiet.bind
  intro deadline looked same
  apply reports_current
  -- Looking at the clock has left the connection alone: speak of the later endpoint throughout.
  rw [← same] at connected ⊢
  apply asksAs_bind
  · intro calls error asks
    exact .unconfirmed connected asks
  · intro calls pdu between asks kept
    -- N(S) has advanced before the turn is passed on, so it stays advanced if that fails.
    apply reports_update
    apply reports_current
    apply (note_quiet _).bind
    intro answer noted unchanged
    apply Reports.mono (sendPdu_speaks _ [])
    rintro more result connection ⟨rfl, last⟩
    rw [last, unchanged, kept]
    exact .confirmed connected asks result

theorem receive_performs :
    recording.Reports Endpoint.receive patience endpoint fun calls result connection =>
      Performs .receive endpoint.connection calls (result.map some) connection := by
  unfold Endpoint.receive
  apply onlyConnected_bind
  · exact .refused rfl
  intro connected
  apply transferDeadline_quiet.bind
  intro deadline looked same
  rw [← bind_assoc]
  apply (hears_reports .information PduHeader.split deadline).bind
  · rintro calls error connection ⟨hears, kept⟩
    rw [kept, same]
    exact .unreceived connected hears
  · rintro calls ⟨inbound, field⟩ heard ⟨hears, kept⟩
    -- The addresses change before the acknowledgement is sent, N(R) only after it.
    apply reports_update
    rw [kept, same]
    apply (sendPdu_speaks _ _).bind
    · rintro more error connection ⟨rfl, last⟩
      rw [last]
      exact .unacknowledged connected hears error
    · rintro more answer sent ⟨rfl, last⟩
      apply reports_update
      apply reports_pure
      have performs : Performs .receive endpoint.connection _ _ _ := .received connected hears
      rw [List.append_nil]
      rw [last]
      exact performs

theorem perform_performs (operation : Operation) :
    recording.Reports operation.perform patience endpoint
      (Performs operation endpoint.connection) := by
  cases operation with
  | activate timeoutMs => exact reports_map (activate_performs timeoutMs)
  | connect timeoutMs => exact reports_map (connect_performs timeoutMs)
  | accept timeoutMs => exact reports_map (accept_performs timeoutMs)
  | transmit header body => exact reports_map (transmit_performs header body)
  | receive => exact reports_map receive_performs
  | release => exact reports_map release_performs
  | acceptRelease => exact reports_map acceptRelease_performs

end Recording

namespace Operation

variable {σ : Type} [Host σ] [PeerLink σ] {operation : Operation} {patience : Nat}
variable {result : Except Error (Option Bytes)}

/-- An operation that ends was conducted in one of the ways there are. -/
theorem perform_conducted {before after : Endpoint σ}
    (ended : (operation.perform patience before).ended = some (result, after)) :
    ∃ calls, Performs operation before.connection calls result after.connection := by
  obtain ⟨calls, -, performs⟩ :=
    (ifEnds_iff _ _).mp (Recording.blind.perform_performs operation) result after ended
  exact ⟨calls, performs⟩

/-- The calls of an operation are those that an observer of the link has seen. -/
theorem perform_observed {before after : Endpoint (Observed σ)}
    (ended : (operation.perform patience before).ended = some (result, after)) :
    ∃ calls, after.link.calls = before.link.calls ++ calls ∧
      Performs operation before.connection calls result after.connection :=
  (ifEnds_iff _ _).mp (Recording.observed.perform_performs operation) result after ended

end Operation

end NfcLink
