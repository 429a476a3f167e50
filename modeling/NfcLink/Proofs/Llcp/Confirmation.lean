import NfcLink.Proofs.Llcp.Ledger

/-!
# What confirms a transmission

A transmission waits for a PDU of the type receive-ready and looks no further. An
acknowledgement of an earlier PDU, or one whose sequence octet was lost, confirms it as
its own would.
-/
namespace NfcLink

open NfcLink.Action Outcome

/-- A transmission that succeeds has taken a complete receive-ready PDU with the number after that
of its information PDU. -/
def ConfirmedByItsOwn {σ : Type} (step : Step (Observed σ)) : Prop :=
  ∀ header body, step.operation = .transmit header body → step.result.isOk = true →
    ∃ receiveReady acknowledgement,
      firstOf .receiveReady (repliesIn step.calls) = some receiveReady ∧
      PduHeader.parse receiveReady = .ok acknowledgement ∧
      acknowledgement.nr = some (step.before.connection.ns + 1)

theorem Performs.transmit_cases {header body : Bytes} {before after : Connection}
    {calls : List LinkCall} {result : Except Error (Option Bytes)}
    (performs : Performs (.transmit header body) before calls result after)
    (connected : before.phase = .connected) :
    (firstOf .receiveReady (repliesIn calls) = none ∧ result.isOk = false ∧ after = before) ∨
    ∃ receiveReady earlier sent, firstOf .receiveReady (repliesIn calls) = some receiveReady ∧
      calls = earlier ++ [.written PduHeader.symm.encode [] sent] ∧
      result = sent.map (fun _ => none) ∧ after = { before with ns := before.ns.next } := by
  cases performs with
  | refused needed missing => exact absurd connected missing
  | unconfirmed standing asks => exact .inl ⟨asks.takes, rfl, rfl⟩
  | @confirmed _ _ _ earlier receiveReady standing asks sent =>
    refine .inr ⟨receiveReady, earlier, sent, ?_, rfl, rfl, rfl⟩
    rw [repliesIn_append_written]
    exact asks.takes

section Runs

variable {σ : Type} [Host σ] [PeerLink σ] {before after : Endpoint (Observed σ)}

/-- The first receive-ready PDU that comes after the information PDU confirms it, whatever numbers
it has or lacks: without one the transmission fails and the connection stays as it is; with one
N(S) advances, and the result is that of passing the turn on. -/
theorem Operation.transmit_confirmed_by_type {header body : Bytes} {patience : Nat}
    {result : Except Error (Option Bytes)} (connected : before.connection.phase = .connected)
    (ended : ((Operation.transmit header body).perform patience before).ended =
      some (result, after)) :
    let step : Step (Observed σ) := ⟨.transmit header body, before, result, after⟩
    (firstOf .receiveReady (repliesIn step.calls) = none →
      result.isOk = false ∧ after.connection = before.connection) ∧
    (∀ receiveReady, firstOf .receiveReady (repliesIn step.calls) = some receiveReady →
      after.connection = { before.connection with ns := before.connection.ns + 1 } ∧
      ∃ sent, step.calls.getLast? = some (.written [0x00, 0x00] [] sent) ∧
        result = sent.map fun _ => none) := by
  intro step
  obtain ⟨-, performs⟩ := Step.observed ended
  rcases performs.transmit_cases connected with ⟨missing, fails, same⟩ |
    ⟨found, earlier, sent, present, calls, outcome, advanced⟩
  · refine ⟨fun _ => ⟨fails, same⟩, ?_⟩
    intro receiveReady first
    rw [missing] at first
    cases first
  · refine ⟨?_, fun _ _ => ⟨advanced, sent, ?_, outcome⟩⟩
    · intro first
      rw [present] at first
      cases first
    · rw [calls, List.getLast?_concat]
      rfl

end Runs

/-! ### A peer that acknowledges badly -/

/-- An acknowledgement of the first PDU of a connection, and one without its sequence octet. -/
def badAcknowledgements : List Bytes := [[0x83, 0x44, 0x01], [0x83, 0x44]]

/-- Accepts a connection, acknowledges the first PDU and answers the second with this. -/
def acknowledgingPeer (answer : Bytes) : Observed (Bench PeerScript) :=
  let script := [[0x00, 0x00], [0x81, 0x84], [0x83, 0x44, 0x01], answer]
  { inner := { device := { inbound := script.map .ok } } }

theorem run_with_acknowledgingPeer :
    ∀ answer ∈ badAcknowledgements,
      ∃ opening former latter last, Run { link := acknowledgingPeer answer }
        [opening, former, latter] last ∧ latter.operation = .transmit [] [0x79] ∧
        latter.result.isOk = true ∧ latter.before.connection.phase = .connected ∧
        latter.before.connection.ns = 1 ∧
        firstOf .receiveReady (repliesIn latter.calls) = some answer := by
  intro answer member
  have runs : ∀ answer ∈ badAcknowledgements,
      (runOf 9 { link := acknowledgingPeer answer }
        [.connect 1000, .transmit [] [0x78], .transmit [] [0x79]]).any fun (history, _) =>
          history.getLast?.any fun step =>
            step.result.isOk && decide (step.before.connection.phase = .connected) &&
              decide (step.before.connection.ns = 1) &&
              decide (firstOf .receiveReady (repliesIn step.calls) = some answer) := by
    decide +kernel
  obtain ⟨⟨history, last⟩, found, summary⟩ := (Option.any_eq_true ..).mp (runs answer member)
  obtain ⟨run, operations⟩ := runOf_sound found
  simp only [List.map_eq_cons_iff, List.map_eq_nil_iff] at operations
  obtain ⟨opening, _, rfl, -, former, _, rfl, -, latter, _, rfl, transmits, rfl⟩ := operations
  simp only [List.getLast?_cons_cons, List.getLast?_singleton, Option.any_some, Bool.and_eq_true,
    decide_eq_true_eq] at summary
  obtain ⟨⟨⟨succeeds, connected⟩, number⟩, taken⟩ := summary
  exact ⟨opening, former, latter, last, run, transmits, succeeds, connected, number, taken⟩

theorem not_confirmed_by_its_own :
    ∀ answer ∈ badAcknowledgements, ∃ history last step,
      Run { link := acknowledgingPeer answer } history last ∧ step ∈ history ∧
        ¬ConfirmedByItsOwn step := by
  intro answer member
  obtain ⟨opening, former, latter, last, run, transmits, succeeds, -, number, taken⟩ :=
    run_with_acknowledgingPeer answer member
  refine ⟨_, last, latter, run, by simp, ?_⟩
  intro confirmed
  obtain ⟨receiveReady, acknowledgement, first, read, own⟩ := confirmed _ _ transmits succeeds
  have other : ∀ answer ∈ badAcknowledgements,
      (PduHeader.parse answer).toOption.bind PduHeader.nr ≠ some 2 := by
    decide
  -- The transmission had number one, so its own acknowledgement would have had number two.
  rw [taken] at first
  cases first
  apply other answer member
  rw [read]
  rw [number] at own
  exact own

/-- The acknowledgement of the first PDU confirms the second one too, and so does one without its
sequence octet. -/
theorem confirmed_by_other_acknowledgements :
    (¬∀ history last, Run { link := acknowledgingPeer [0x83, 0x44, 0x01] } history last →
      ∀ step ∈ history, ConfirmedByItsOwn step) ∧
    ¬∀ history last, Run { link := acknowledgingPeer [0x83, 0x44] } history last →
      ∀ step ∈ history, ConfirmedByItsOwn step := by
  constructor
  · intro confirmed
    obtain ⟨history, last, step, run, member, not⟩ :=
      not_confirmed_by_its_own [0x83, 0x44, 0x01] (by decide)
    exact not (confirmed history last run step member)
  · intro confirmed
    obtain ⟨history, last, step, run, member, not⟩ :=
      not_confirmed_by_its_own [0x83, 0x44] (by decide)
    exact not (confirmed history last run step member)

/-- The second PDU counts as acknowledged by the acknowledgement of the first. -/
theorem transmit_confirmed_by_first_acknowledgement :
    ∃ step : Step (Observed (Bench PeerScript)), step.operation = .transmit [] [0x79] ∧
      step.before.connection.phase = .connected ∧ step.before.connection.ns = 1 ∧
      firstOf .receiveReady (repliesIn step.calls) = some [0x83, 0x44, 0x01] ∧
      step.after.connection.ns = 2 := by
  obtain ⟨opening, former, latter, last, run, transmits, -, connected, number, taken⟩ :=
    run_with_acknowledgingPeer [0x83, 0x44, 0x01] (by decide)
  have whole : Run _ ([opening, former] ++ latter :: []) last := run
  obtain ⟨-, patience, ended⟩ := whole.took
  obtain ⟨operation, before, result, after⟩ := latter
  obtain rfl : operation = .transmit [] [0x79] := transmits
  obtain ⟨-, advances⟩ := Operation.transmit_confirmed_by_type connected ended
  obtain ⟨advanced, -⟩ := advances _ taken
  refine ⟨_, rfl, connected, number, taken, ?_⟩
  rw [advanced]
  change before.connection.ns + 1 = 2
  rw [number]
  rfl

end NfcLink
