import NfcLink.Proofs.Llcp.Performed
import NfcLink.Sim.Peer

/-!
# The life of a connection

A run is a series of operations on one endpoint, each of which came to an end on a link
that did as it pleased. After every run the phase says whether there is a connection, and
what makes one is known from the operations and their results alone.
-/
namespace NfcLink

open NfcLink.Action Outcome

/-- An operation that has ended. -/
structure Step (σ : Type) where
  operation : Operation
  before : Endpoint σ
  result : Except Error (Option Bytes)
  after : Endpoint σ

/-- The operations that led from one endpoint to another, the latest last. -/
inductive Run {σ : Type} [Host σ] [PeerLink σ] (first : Endpoint σ) :
    List (Step σ) → Endpoint σ → Prop where
  | start : Run first [] first
  | step {history : List (Step σ)} {before after : Endpoint σ} {operation : Operation}
      {patience : Nat} {result : Except Error (Option Bytes)} (run : Run first history before)
      (ended : (operation.perform patience before).ended = some (result, after)) :
    Run first (history ++ [⟨operation, before, result, after⟩]) after

section Runs

variable {σ : Type} [Host σ] [PeerLink σ] {first last : Endpoint σ}

/-- A run can be cut anywhere, and both parts are runs. -/
theorem Run.split {earlier later : List (Step σ)} (run : Run first (earlier ++ later) last) :
    ∃ between, Run first earlier between ∧ Run between later last := by
  generalize whole : earlier ++ later = history at run
  -- A run is cut off from its end: its last step belongs to `later`, or nothing does.
  induction run generalizing later with
  | start =>
    obtain ⟨rfl, rfl⟩ := List.append_eq_nil_iff.mp whole
    exact ⟨first, .start, .start⟩
  | step run ended ih =>
    rcases List.eq_nil_or_concat later with rfl | ⟨later, last, rfl⟩
    · rw [List.append_nil] at whole
      exact ⟨_, whole ▸ run.step ended, .start⟩
    · rw [List.concat_eq_append, ← List.append_assoc] at whole
      obtain ⟨same, final⟩ := List.append_inj' whole rfl
      obtain ⟨between, beginning, rest⟩ := ih same
      cases final
      rw [List.concat_eq_append]
      exact ⟨between, beginning, rest.step ended⟩

/-- The first step of a run, and what follows it. -/
theorem Run.uncons {step : Step σ} {later : List (Step σ)} (run : Run first (step :: later) last) :
    ∃ between, Run first [step] between ∧ Run between later last := by
  have whole : Run first ([step] ++ later) last := run
  exact whole.split

theorem Run.nothing (run : Run first [] last) : last = first := by
  generalize none : [] = history at run
  cases run with
  | start => rfl
  | step => simp at none

/-- What the only step of a run was. -/
theorem Run.single {step : Step σ} (run : Run first [step] last) :
    step.before = first ∧ step.after = last ∧ ∃ patience,
      (step.operation.perform patience step.before).ended = some (step.result, step.after) := by
  generalize whole : [step] = history at run
  cases run with
  | start => cases whole
  | @step history _ _ _ _ _ run ended =>
    have whole : [] ++ [step] = history ++ [_] := whole
    obtain ⟨same, final⟩ := List.append_inj' whole rfl
    subst same
    cases final
    exact ⟨run.nothing, rfl, _, ended⟩

/-- What each step of a run was. -/
theorem Run.took {earlier later : List (Step σ)} {step : Step σ}
    (run : Run first (earlier ++ step :: later) last) :
    Run first earlier step.before ∧ ∃ patience,
      (step.operation.perform patience step.before).ended = some (step.result, step.after) := by
  obtain ⟨before, beginning, rest⟩ := run.split
  obtain ⟨after, taken, -⟩ := rest.uncons
  obtain ⟨rfl, -, ended⟩ := taken.single
  exact ⟨beginning, ended⟩

/-- The run that goes on with one more operation, if this ends. -/
def continueRun (patience : Nat) :
    List (Step σ) × Endpoint σ → Operation → Option (List (Step σ) × Endpoint σ)
  | (history, before), operation =>
    (operation.perform patience before).ended.map fun (result, after) =>
      (history ++ [⟨operation, before, result, after⟩], after)

/-- The run of these operations, if all of them end. -/
def runOf (patience : Nat) (first : Endpoint σ) (operations : List Operation) :
    Option (List (Step σ) × Endpoint σ) :=
  operations.foldlM (continueRun patience) ([], first)

theorem Run.continued {patience : Nat} {operations : List Operation}
    {start found : List (Step σ) × Endpoint σ}
    (goes : operations.foldlM (continueRun patience) start = some found)
    (run : Run first start.1 start.2) :
    Run first found.1 found.2 ∧
      found.1.map Step.operation = start.1.map Step.operation ++ operations := by
  induction operations generalizing start with
  | nil =>
    cases goes
    exact ⟨run, (List.append_nil _).symm⟩
  | cons operation later ih =>
    rw [List.foldlM_cons] at goes
    obtain ⟨next, goes, further⟩ := Option.bind_eq_some_iff.mp goes
    obtain ⟨⟨result, after⟩, ended, rfl⟩ := Option.map_eq_some_iff.mp goes
    obtain ⟨run, operations⟩ := ih further (run.step ended)
    refine ⟨run, operations.trans ?_⟩
    rw [List.map_append, List.append_assoc]
    rfl

theorem runOf_sound {patience : Nat} {operations : List Operation} {history : List (Step σ)}
    (found : runOf patience first operations = some (history, last)) :
    Run first history last ∧ history.map Step.operation = operations :=
  Run.continued found .start

end Runs

namespace Phase

/-- Where an endpoint can stand between two operations. -/
def resting : Phase → Bool
  | idle => true
  | activating => true
  | connected => true
  | _ => false

theorem resting_concluding {success : Phase} (rests : success.resting = true) {α : Type}
    (result : Except Error α) : (success.concluding result).resting = true := by
  cases result with
  | ok answer => exact rests
  | error error => rfl

theorem concluding_connected_iff {α : Type} (result : Except Error α) :
    Phase.connected.concluding result = .connected ↔ result.isOk = true := by
  cases result with
  | ok answer => exact iff_of_true rfl rfl
  | error error => exact iff_of_false nofun nofun

end Phase

theorem isOk_map {α β : Type} (change : α → β) (result : Except Error α) :
    (result.map change).isOk = result.isOk := by
  cases result <;> rfl

theorem isOk_iff {α : Type} {result : Except Error α} :
    result.isOk = true ↔ ∃ answer, result = .ok answer := by
  cases result with
  | ok answer => exact iff_of_true rfl ⟨answer, rfl⟩
  | error error => exact iff_of_false nofun nofun

/-! ### One operation -/

namespace Performs

variable {operation : Operation} {before after : Connection} {calls : List LinkCall}
variable {result : Except Error (Option Bytes)}

theorem resting (performs : Performs operation before calls result after)
    (rests : before.phase.resting = true) : after.phase.resting = true := by
  cases performs with
  | activated timeoutMs result => exact Phase.resting_concluding rfl result
  | proposed asks => exact Phase.resting_concluding rfl _
  | accepted hears result => exact Phase.resting_concluding rfl result
  | unheard | released | unreleased | releaseAccepted => rfl
  | refused | unconfirmed | confirmed | unreceived | unacknowledged | received => exact rests

/-- What needs a connection and succeeds has found one. -/
theorem connected (performs : Performs operation before calls result after)
    (needed : operation.needsConnection = true) (succeeds : result.isOk = true) :
    before.phase = .connected := by
  cases performs with
  | refused needed missing => cases succeeds
  | activated | proposed | unheard | accepted => cases needed
  | released connected | unreleased connected | releaseAccepted connected
  | unconfirmed connected | confirmed connected | unreceived connected
  | unacknowledged connected | received connected => exact connected

/-- There is a connection when one was opened, or when there was one and data went over it. -/
theorem connected_iff (performs : Performs operation before calls result after) :
    after.phase = .connected ↔ (operation.opens = true ∧ result.isOk = true) ∨
      (operation.transfers = true ∧ before.phase = .connected) := by
  cases performs with
  -- What was refused needs a connection, so it opens none, and there was none to use.
  | refused needed missing =>
    cases operation <;> simp_all [Operation.needsConnection, Operation.opens]
  | activated timeoutMs result =>
    cases result <;> simp [Operation.opens, Operation.transfers, Phase.concluding]
  | proposed asks =>
    rw [isOk_map]
    simp [Operation.opens, Operation.transfers, Phase.concluding_connected_iff]
  | accepted hears result =>
    rw [isOk_map]
    simp [Operation.opens, Operation.transfers, Phase.concluding_connected_iff]
  | unheard hears => simp [Operation.transfers, Except.isOk, Except.toBool]
  | released connected | unreleased connected | releaseAccepted connected =>
    simp [Operation.opens, Operation.transfers]
  | unconfirmed connected | confirmed connected | unreceived connected
  | unacknowledged connected | received connected =>
    exact iff_of_true connected (.inr ⟨rfl, connected⟩)

end Performs

/-- Without a connection, what needs one fails at once and leaves everything as it is. -/
theorem Operation.perform_refused {σ : Type} [Host σ] [PeerLink σ] {operation : Operation}
    (needed : operation.needsConnection = true) {endpoint : Endpoint σ}
    (missing : endpoint.connection.phase ≠ .connected) (patience : Nat) :
    operation.perform patience endpoint = .failed (.link .notConnected) endpoint := by
  have refuses : Endpoint.onlyConnected patience endpoint = _ :=
    Endpoint.onlyConnected_of_other missing
  cases operation with
  | transmit | receive | release | acceptRelease => exact bind_of_failed (bind_of_failed refuses)
  | activate | connect | accept => cases needed

/-! ### Histories -/

section Histories

variable {σ : Type}

/-- A connection was opened, and since then data went over it at most. -/
def Established (history : List (Step σ)) : Prop :=
  ∃ earlier opening later, history = earlier ++ opening :: later ∧
    opening.operation.opens = true ∧ opening.result.isOk = true ∧
    ∀ step ∈ later, step.operation.transfers = true

theorem not_established_nil : ¬Established ([] : List (Step σ)) := by
  rintro ⟨earlier, opening, later, split, -⟩
  simp at split

theorem established_append_iff (history : List (Step σ)) (step : Step σ) :
    Established (history ++ [step]) ↔
      (step.operation.opens = true ∧ step.result.isOk = true) ∨
        (step.operation.transfers = true ∧ Established history) := by
  constructor
  · rintro ⟨earlier, opening, later, split, opens, succeeds, transfers⟩
    -- The step is the opening itself, or the last of what came after it.
    rcases List.eq_nil_or_concat later with rfl | ⟨later, last, rfl⟩
    · obtain ⟨-, same⟩ := List.append_inj' split rfl
      cases same
      exact .inl ⟨opens, succeeds⟩
    · rw [List.concat_eq_append] at split transfers
      rw [← List.cons_append, ← List.append_assoc] at split
      obtain ⟨rfl, same⟩ := List.append_inj' split rfl
      cases same
      refine .inr ⟨transfers step (by simp), earlier, opening, later, rfl, opens, succeeds, ?_⟩
      intro other member
      exact transfers other (List.mem_append_left _ member)
  · rintro (⟨opens, succeeds⟩ | ⟨transfers, earlier, opening, later, rfl, opens, succeeds, kept⟩)
    · exact ⟨history, step, [], rfl, opens, succeeds, by simp⟩
    · refine ⟨earlier, opening, later ++ [step], by simp, opens, succeeds, ?_⟩
      intro other member
      rcases List.mem_append.mp member with member | member
      · exact kept other member
      · rw [List.mem_singleton.mp member]
        exact transfers

variable [Host σ] [PeerLink σ] {first last : Endpoint σ} {history : List (Step σ)}

theorem Run.resting (run : Run first history last) (rests : first.connection.phase.resting = true) :
    last.connection.phase.resting = true := by
  induction run with
  | start => exact rests
  | step run ended ih =>
    obtain ⟨calls, performs⟩ := Operation.perform_conducted ended
    exact performs.resting ih

theorem Run.connected_iff (run : Run first history last)
    (fresh : first.connection.phase ≠ .connected) :
    last.connection.phase = .connected ↔ Established history := by
  induction run with
  | start => exact iff_of_false fresh not_established_nil
  | step run ended ih =>
    obtain ⟨calls, performs⟩ := Operation.perform_conducted ended
    rw [performs.connected_iff, established_append_iff, ih]

/-- Between operations an endpoint is idle, activating or connected; it is connected exactly when a
connection was opened and since then data went over it at most; and unless it is, what needs a
connection fails at once and leaves the link and everything else as it is. -/
theorem Run.phase_follows_history {link : σ} {settings : LinkSettings}
    (run : Run { link, settings } history last) :
    last.connection.phase ∈ [.idle, .activating, .connected] ∧
    (last.connection.phase = .connected ↔ Established history) ∧
    (last.connection.phase ≠ .connected → ∀ operation : Operation,
      operation.needsConnection = true → ∀ patience,
        operation.perform patience last = .failed (.link .notConnected) last) := by
  refine ⟨?_, run.connected_iff nofun, ?_⟩
  · have rests := run.resting rfl
    cases phase : last.connection.phase with
    | idle | activating | connected => simp
    | connecting | disconnecting =>
      rw [phase] at rests
      cases rests
  · intro missing operation needed patience
    exact Operation.perform_refused needed missing patience

end Histories

/-- A connection is proposed and used, and the controller is then told to wait again. -/
theorem Run.phase_follows_renewed_activation :
    let script : List Bytes := [[0x00, 0x00], [0x81, 0x84], [0x83, 0x04, 0x00, 0x61]]
    let first : Endpoint (Bench PeerScript) :=
      { link := { device := { inbound := script.map .ok } } }
    ∃ history last, Run first history last ∧
      history.map Step.operation = [.connect 1000, .receive, .activate 500] ∧
      last.connection.phase = .activating ∧ ¬Established history ∧
      Operation.receive.perform 9 last = .failed (.link .notConnected) last := by
  intro script first
  have runs : (runOf 9 first [.connect 1000, .receive, .activate 500]).map
      (fun (_, last) => last.connection.phase) = some .activating := by
    decide +kernel
  obtain ⟨⟨history, last⟩, found, summary⟩ := Option.map_eq_some_iff.mp runs
  have activating : last.connection.phase = .activating := summary
  obtain ⟨run, operations⟩ := runOf_sound found
  obtain ⟨-, connected, refuses⟩ := run.phase_follows_history
  have missing : last.connection.phase ≠ .connected := by
    rw [activating]
    nofun
  exact ⟨history, last, run, operations, activating,
    fun established => missing (connected.mpr established), refuses missing .receive rfl 9⟩

end NfcLink
