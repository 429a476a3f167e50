import NfcLink.Proofs.Llcp.Success
import NfcLink.Proofs.Llcp.Confirmation
import NfcLink.Tap

/-!
# Transfers that are interrupted

A transfer makes several calls on the link, and any of them can fail. Up to a certain one a
failure leaves the connection as it was. Behind it the connection has taken its step: N(S)
has advanced once the acknowledgement has come, though the turn is still to be passed on;
and the addresses are those of an information PDU once that has come, though it is still
to be acknowledged.
-/
namespace NfcLink

open NfcLink.Action Outcome

namespace Performs

variable {before after : Connection} {calls : List LinkCall}
variable {result : Except Error (Option Bytes)}

/-- Either no information PDU was read, or one was, and then the last call acknowledges it. -/
theorem receive_cases (performs : Performs .receive before calls result after)
    (connected : before.phase = .connected) :
    (firstHeader .information (heardIn calls) = none ∧ result.isOk = false ∧ after = before) ∨
    ∃ inbound sent, firstHeader .information (heardIn calls) = some inbound ∧
      calls.getLast? = some (.written (Connection.acknowledgement inbound).encode [] sent) ∧
      ((∃ error, sent = .error error ∧ result = .error error ∧ after = before.rebound inbound) ∨
        (sent = .ok () ∧ result.isOk = true ∧
          after = { before.rebound inbound with nr := before.nr.next })) := by
  cases performs with
  | refused needed missing => exact absurd connected missing
  | unreceived standing hears => exact .inl ⟨hears.splits_not, rfl, rfl⟩
  | @unacknowledged _ _ inbound _ standing hears error =>
    refine .inr ⟨inbound, .error error, ?_, List.getLast?_concat, .inl ⟨error, rfl, rfl, rfl⟩⟩
    rw [heardIn_append_written, hears.splits]
  | @received _ _ inbound _ standing hears =>
    refine .inr ⟨inbound, .ok (), ?_, List.getLast?_concat, .inr ⟨rfl, rfl, rfl⟩⟩
    rw [heardIn_append_written, hears.splits]

/-- Attempts that start from the same connection send the same PDU. -/
theorem transmit_repeats {header body : Bytes} {last : Connection} {more : List LinkCall}
    {again : Except Error (Option Bytes)}
    (performs : Performs (.transmit header body) before calls result after)
    (repeats : Performs (.transmit header body) before more again last) :
    ∀ pdu ∈ informedIn calls ++ informedIn more,
      pdu = before.information.encode ++ header ++ body := by
  intro pdu member
  rcases List.mem_append.mp member with member | member
  · obtain ⟨_, _, ⟨rfl, rfl⟩, same⟩ := performs.of_informs member
    exact same
  · obtain ⟨_, _, ⟨rfl, rfl⟩, same⟩ := repeats.of_informs member
    exact same

end Performs

section Transfers

variable {σ : Type} [Host σ] [PeerLink σ] {before after : Endpoint (Observed σ)}

/-- A transmission that succeeds advances N(S) and changes nothing else. One that fails and has read
no acknowledgement after its PDU was handed to the link changes nothing, so that the same PDU goes
out when it is repeated; one that fails with it has failed to pass the turn on, and has advanced
N(S) all the same.

A reception that succeeds advances N(R) and takes over the addresses of its PDU. One that fails
without a PDU changes nothing; one that fails with it has failed to acknowledge it, and has taken
over its addresses all the same. -/
theorem Operation.transfer_leaves_connection {patience : Nat}
    {result : Except Error (Option Bytes)} (connected : before.connection.phase = .connected) :
    (∀ header body, ((Operation.transmit header body).perform patience before).ended =
        some (result, after) →
      let step : Step (Observed σ) := ⟨.transmit header body, before, result, after⟩
      let advanced := { before.connection with ns := before.connection.ns + 1 }
      (result.isOk = true → after.connection = advanced) ∧
      (∀ error, result = .error error →
        (firstOf .receiveReady (repliesIn step.calls) = none ∧
          after.connection = before.connection ∧
          ∀ patience again last, ((Operation.transmit header body).perform patience after).ended =
              some (again, last) →
            let retry : Step (Observed σ) := ⟨.transmit header body, after, again, last⟩
            ∀ pdu ∈ informedIn step.calls ++ informedIn retry.calls,
              pdu = before.connection.information.encode ++ header ++ body) ∨
        ((∃ receiveReady, firstOf .receiveReady (repliesIn step.calls) = some receiveReady) ∧
          step.calls.getLast? = some (.written [0x00, 0x00] [] (.error error)) ∧
          after.connection = advanced))) ∧
    (((Operation.receive).perform patience before).ended = some (result, after) →
      let step : Step (Observed σ) := ⟨.receive, before, result, after⟩
      (result.isOk = true → ∃ inbound,
        firstHeader .information (heardIn step.calls) = some inbound ∧
        after.connection =
          { before.connection.rebound inbound with nr := before.connection.nr + 1 }) ∧
      (∀ error, result = .error error →
        (firstHeader .information (heardIn step.calls) = none ∧
          after.connection = before.connection) ∨
        ∃ inbound, firstHeader .information (heardIn step.calls) = some inbound ∧
          step.calls.getLast? =
            some (.written (Connection.acknowledgement inbound).encode [] (.error error)) ∧
          after.connection = before.connection.rebound inbound)) := by
  constructor
  · intro header body ended step advanced
    obtain ⟨-, performs⟩ := Step.observed ended
    rcases performs.transmit_cases connected with ⟨missing, fails, same⟩ |
      ⟨receiveReady, earlier, sent, present, calls, outcome, counted⟩
    · constructor
      · intro succeeds
        rw [fails] at succeeds
        cases succeeds
      · intro error failed
        refine .inl ⟨missing, same, ?_⟩
        intro patience again last retried retry
        obtain ⟨-, repeats⟩ := Step.observed retried
        exact performs.transmit_repeats (same ▸ repeats)
    · constructor
      · intro _
        exact counted
      · rintro error rfl
        refine .inr ⟨⟨receiveReady, present⟩, ?_, counted⟩
        cases sent with
        | ok answer => cases outcome
        | error found =>
          cases outcome
          rw [calls, List.getLast?_concat]
          rfl
  · intro ended step
    obtain ⟨-, performs⟩ := Step.observed ended
    rcases performs.receive_cases connected with ⟨missing, fails, same⟩ |
      ⟨inbound, sent, present, closing, ⟨error, rfl, rfl, rebound⟩ | ⟨rfl, succeeds, counted⟩⟩
    · constructor
      · intro succeeds
        rw [fails] at succeeds
        cases succeeds
      · intro error failed
        exact .inl ⟨missing, same⟩
    · constructor
      · intro impossible
        cases impossible
      · rintro _ ⟨rfl⟩
        exact .inr ⟨inbound, present, closing, rebound⟩
    · constructor
      · intro _
        exact ⟨inbound, present, counted⟩
      · rintro error rfl
        cases succeeds

end Transfers

/-! ### A link that fails in the middle of a transfer -/

/-- A transfer on a connection leaves it alone when it fails. -/
def FailsWithoutTrace {σ : Type} (step : Step (Observed σ)) : Prop :=
  step.operation.transfers = true → step.before.connection.phase = .connected →
    step.result.isOk = false → step.after.connection = step.before.connection

/-- Accepts a connection, acknowledges one PDU and sends one between other addresses, over a link
of which one call fails after so many. -/
def severedPeer (passing : Nat) : Observed (Tapped (Bench PeerScript)) :=
  let script := [Reply.pdu 0 .symm 0, Reply.pdu 0x20 .cc 0x04, Reply.receiveReady 0x20 0x04 1,
    Reply.information 0x05 0x21 3 0 [0xAA]]
  { inner := { inner := { device := { inbound := script.map .ok } }, passing, failing := 1 } }

/-- The SYMM behind the acknowledgement is the sixth call. -/
theorem transmit_to_severedPeer :
    ∃ opening before after last patience,
      let step := ⟨.transmit [] [0x78], before, .error Tapped.injected, after⟩
      Run { link := severedPeer 5 } [opening, step] last ∧
        ((Operation.transmit [] [0x78]).perform patience before).ended =
          some (.error Tapped.injected, after) ∧
        before.connection = ⟨.initiator, .connected, 0x04, 0x20, 0, 0⟩ ∧
        firstOf .receiveReady (repliesIn step.calls) = some (Reply.receiveReady 0x20 0x04 1) := by
  have runs : (runOf 9 { link := severedPeer 5 } [.connect 1000, .transmit [] [0x78]]).map
      (fun (history, _) => history.map fun step =>
        (step.result, step.before.connection,
          firstOf .receiveReady (repliesIn step.calls))) =
      some [(.ok none, {}, none),
        (.error Tapped.injected, ⟨.initiator, .connected, 0x04, 0x20, 0, 0⟩,
          some (Reply.receiveReady 0x20 0x04 1))] := by
    decide +kernel
  obtain ⟨⟨history, last⟩, found, summary⟩ := Option.map_eq_some_iff.mp runs
  obtain ⟨run, operations⟩ := runOf_sound found
  simp only [List.map_eq_cons_iff, List.map_eq_nil_iff] at operations
  obtain ⟨opening, _, rfl, -, ⟨_, before, _, after⟩, _, rfl, rfl, rfl⟩ := operations
  simp only [List.map_cons, List.map_nil, List.cons.injEq, Prod.mk.injEq, and_true] at summary
  obtain ⟨-, rfl, connection, taken⟩ := summary
  have whole : Run _ ([opening] ++ ⟨_, before, _, after⟩ :: []) last := run
  obtain ⟨-, patience, ended⟩ := whole.took
  exact ⟨opening, before, after, last, patience, run, ended, connection, taken⟩

/-- The acknowledgement of the PDU between other addresses is the eighth call. -/
theorem receive_from_severedPeer :
    ∃ opening sending before after last patience,
      let step := ⟨.receive, before, .error Tapped.injected, after⟩
      Run { link := severedPeer 7 } [opening, sending, step] last ∧
        (Operation.receive.perform patience before).ended =
          some (.error Tapped.injected, after) ∧
        before.connection = ⟨.initiator, .connected, 0x04, 0x20, 1, 0⟩ ∧
        firstHeader .information (heardIn step.calls) =
          some ⟨0x05, .information, 0x21, some (3, 0)⟩ := by
  have runs : (runOf 9 { link := severedPeer 7 }
      [.connect 1000, .transmit [] [0x78], .receive]).map
      (fun (history, _) => history.map fun step =>
        (step.result, step.before.connection,
          firstHeader .information (heardIn step.calls))) =
      some [(.ok none, {}, none),
        (.ok none, ⟨.initiator, .connected, 0x04, 0x20, 0, 0⟩, none),
        (.error Tapped.injected, ⟨.initiator, .connected, 0x04, 0x20, 1, 0⟩,
          some ⟨0x05, .information, 0x21, some (3, 0)⟩)] := by
    decide +kernel
  obtain ⟨⟨history, last⟩, found, summary⟩ := Option.map_eq_some_iff.mp runs
  obtain ⟨run, operations⟩ := runOf_sound found
  simp only [List.map_eq_cons_iff, List.map_eq_nil_iff] at operations
  obtain ⟨opening, _, rfl, -, sending, _, rfl, -, ⟨_, before, _, after⟩, _, rfl, rfl, rfl⟩ :=
    operations
  simp only [List.map_cons, List.map_nil, List.cons.injEq, Prod.mk.injEq, and_true] at summary
  obtain ⟨-, -, rfl, connection, taken⟩ := summary
  have whole : Run _ ([opening, sending] ++ ⟨_, before, _, after⟩ :: []) last := run
  obtain ⟨-, patience, ended⟩ := whole.took
  exact ⟨opening, sending, before, after, last, patience, run, ended, connection, taken⟩

/-- N(S) has advanced though the turn was never passed on, and the addresses have changed though
the PDU that brought them was never acknowledged. -/
theorem severed_transfers_leave_traces :
    (¬∀ history last, Run { link := severedPeer 5 } history last →
      ∀ step ∈ history, FailsWithoutTrace step) ∧
    ¬∀ history last, Run { link := severedPeer 7 } history last →
      ∀ step ∈ history, FailsWithoutTrace step := by
  constructor
  · intro traceless
    obtain ⟨opening, before, after, last, patience, run, ended, connection, taken⟩ :=
      transmit_to_severedPeer
    have connected : before.connection.phase = .connected := by rw [connection]
    have same : after.connection = before.connection :=
      traceless _ last run ⟨.transmit [] [0x78], before, .error Tapped.injected, after⟩ (by simp)
        rfl connected rfl
    obtain ⟨-, performs⟩ := Step.observed ended
    rcases performs.transmit_cases connected with ⟨missing, -, -⟩ | ⟨-, -, -, -, -, -, advanced⟩
    · rw [taken] at missing
      cases missing
    · rw [same, connection] at advanced
      exact absurd advanced (by decide)
  · intro traceless
    obtain ⟨opening, sending, before, after, last, patience, run, ended, connection, taken⟩ :=
      receive_from_severedPeer
    have connected : before.connection.phase = .connected := by rw [connection]
    have same : after.connection = before.connection :=
      traceless _ last run ⟨.receive, before, .error Tapped.injected, after⟩ (by simp)
        rfl connected rfl
    obtain ⟨-, performs⟩ := Step.observed ended
    rcases performs.receive_cases connected with ⟨missing, -, -⟩ |
      ⟨inbound, -, present, -, ⟨-, -, -, rebound⟩ | ⟨-, succeeds, -⟩⟩
    · rw [taken] at missing
      cases missing
    · rw [taken] at present
      cases present
      rw [same, connection] at rebound
      exact absurd rebound (by decide)
    · cases succeeds

/-- The acknowledgement counts, and so do the addresses of the PDU. -/
theorem severed_transfers_advance :
    (∃ step : Step (Observed (Tapped (Bench PeerScript))), step.operation = .transmit [] [0x78] ∧
      step.before.connection = ⟨.initiator, .connected, 0x04, 0x20, 0, 0⟩ ∧
      step.result.isOk = false ∧
      step.after.connection = ⟨.initiator, .connected, 0x04, 0x20, 1, 0⟩) ∧
    ∃ step : Step (Observed (Tapped (Bench PeerScript))), step.operation = .receive ∧
      step.before.connection = ⟨.initiator, .connected, 0x04, 0x20, 1, 0⟩ ∧
      step.result.isOk = false ∧
      step.after.connection = ⟨.initiator, .connected, 0x21, 0x05, 1, 0⟩ := by
  constructor
  · obtain ⟨-, before, after, -, patience, -, ended, connection, taken⟩ := transmit_to_severedPeer
    have connected : before.connection.phase = .connected := by rw [connection]
    obtain ⟨-, failing⟩ := (Operation.transfer_leaves_connection connected).1 _ _ ended
    refine ⟨⟨.transmit [] [0x78], before, .error Tapped.injected, after⟩, rfl, connection, rfl, ?_⟩
    rcases failing _ rfl with ⟨missing, -, -⟩ | ⟨-, -, advanced⟩
    · rw [taken] at missing
      cases missing
    · rw [advanced, connection]
      rfl
  · obtain ⟨-, -, before, after, -, patience, -, ended, connection, taken⟩ :=
      receive_from_severedPeer
    have connected : before.connection.phase = .connected := by rw [connection]
    obtain ⟨-, failing⟩ := (Operation.transfer_leaves_connection connected).2 ended
    refine ⟨⟨.receive, before, .error Tapped.injected, after⟩, rfl, connection, rfl, ?_⟩
    rcases failing _ rfl with ⟨missing, -⟩ | ⟨inbound, present, -, rebound⟩
    · rw [taken] at missing
      cases missing
    · rw [taken] at present
      cases present
      rw [rebound, connection]
      rfl

end NfcLink
