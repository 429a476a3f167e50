import NfcLink.Sim.Bench
import NfcLink.Transport

/-!
# How actions end

Three judgments about an action that was run from one state. `Answers` says that it
succeeded with a known answer; `Ends` says that it came to an end at all, whatever
the end is; `IfEnds` leaves open whether it comes to an end. Each has a rule for every
way of composing actions, so that a statement about an operation follows its text.
-/
namespace NfcLink

namespace Outcome

variable {σ α : Type}

/-- Success with this answer, in a state of this kind. -/
def Answers (outcome : Outcome σ α) (answer : α) (post : σ → Prop) : Prop :=
  ∃ state, outcome = .done answer state ∧ post state

/-- An end, be it a success or a failure. -/
def Ends (post : Except Error α → σ → Prop) : Outcome σ α → Prop
  | .done answer state => post (.ok answer) state
  | .failed error state => post (.error error) state
  | .waiting => False

/-- The result and the state that are left, unless the wait goes on. -/
def ended : Outcome σ α → Option (Except Error α × σ)
  | .done answer state => some (.ok answer, state)
  | .failed error state => some (.error error, state)
  | .waiting => none

/-- If there is an end, it is one of these. -/
def IfEnds (post : Except Error α → σ → Prop) : Outcome σ α → Prop
  | .done answer state => post (.ok answer) state
  | .failed error state => post (.error error) state
  | .waiting => True

theorem ifEnds_iff (outcome : Outcome σ α) (post : Except Error α → σ → Prop) :
    outcome.IfEnds post ↔
      ∀ result after, outcome.ended = some (result, after) → post result after := by
  constructor
  · intro ends result after ended
    cases outcome with
    | done answer state =>
      cases ended
      exact ends
    | failed error state =>
      cases ended
      exact ends
    | waiting => cases ended
  · intro ends
    cases outcome with
    | done answer state => exact ends _ _ rfl
    | failed error state => exact ends _ _ rfl
    | waiting => exact True.intro

theorem ends_iff (outcome : Outcome σ α) (post : Except Error α → σ → Prop) :
    outcome.Ends post ↔
      ∃ result after, outcome.ended = some (result, after) ∧ post result after := by
  cases outcome <;> simp [Ends, ended, and_assoc]

theorem Ends.ifEnds {outcome : Outcome σ α} {post : Except Error α → σ → Prop}
    (ends : outcome.Ends post) : outcome.IfEnds post := by
  cases outcome with
  | done answer state => exact ends
  | failed error state => exact ends
  | waiting => exact True.intro

theorem ended_eq_ok_iff {outcome : Outcome σ α} {answer : α} {state : σ} :
    outcome.ended = some (.ok answer, state) ↔ outcome = .done answer state := by
  cases outcome <;> simp [ended]

theorem ended_eq_error_iff {outcome : Outcome σ α} {error : Error} {state : σ} :
    outcome.ended = some (.error error, state) ↔ outcome = .failed error state := by
  cases outcome <;> simp [ended]

theorem IfEnds.mono {outcome : Outcome σ α} {post weaker : Except Error α → σ → Prop}
    (ends : outcome.IfEnds post)
    (weaken : ∀ result state, post result state → weaker result state) :
    outcome.IfEnds weaker := by
  cases outcome with
  | done answer state => exact weaken _ _ ends
  | failed error state => exact weaken _ _ ends
  | waiting => exact ends

theorem IfEnds.and {outcome : Outcome σ α} {first second : Except Error α → σ → Prop}
    (one : outcome.IfEnds first) (other : outcome.IfEnds second) :
    outcome.IfEnds fun result state => first result state ∧ second result state := by
  cases outcome with
  | done answer state => exact ⟨one, other⟩
  | failed error state => exact ⟨one, other⟩
  | waiting => exact one

theorem Answers.mono {outcome : Outcome σ α} {answer : α} {post weaker : σ → Prop}
    (answers : outcome.Answers answer post) (weaken : ∀ state, post state → weaker state) :
    outcome.Answers answer weaker := by
  obtain ⟨state, same, holds⟩ := answers
  exact ⟨state, same, weaken state holds⟩

theorem Ends.mono {outcome : Outcome σ α} {post weaker : Except Error α → σ → Prop}
    (ends : outcome.Ends post) (weaken : ∀ answer state, post answer state → weaker answer state) :
    outcome.Ends weaker := by
  cases outcome with
  | done answer state => exact weaken _ _ ends
  | failed error state => exact weaken _ _ ends
  | waiting => exact ends

theorem Answers.ends {outcome : Outcome σ α} {answer : α} {post : σ → Prop}
    (answers : outcome.Answers answer post) : outcome.Ends fun _ state => post state := by
  obtain ⟨state, rfl, holds⟩ := answers
  exact holds

/-- There is one end. -/
theorem Ends.both {outcome : Outcome σ α} {first second : Except Error α → σ → Prop}
    (one : outcome.Ends first) (other : outcome.Ends second) :
    ∃ result state, first result state ∧ second result state := by
  cases outcome with
  | done answer state => exact ⟨.ok answer, state, one, other⟩
  | failed error state => exact ⟨.error error, state, one, other⟩
  | waiting => exact one.elim

theorem Ends.answers {outcome : Outcome σ α} {answer : α} {post : σ → Prop}
    (ends : outcome.Ends fun result state => result = .ok answer ∧ post state) :
    outcome.Answers answer post := by
  cases outcome with
  | done found state =>
    obtain ⟨⟨rfl⟩, holds⟩ := ends
    exact ⟨state, rfl, holds⟩
  | failed error state => cases ends.1
  | waiting => exact ends.elim

end Outcome

namespace Host

variable {σ : Type} [Host σ]

/-- Entries put into the journal one after the other. -/
def recordAll (notices : List Notice) (state : σ) : σ :=
  notices.foldl (fun state notice => record notice state) state

theorem recordAll_append (earlier later : List Notice) (state : σ) :
    recordAll (earlier ++ later) state = recordAll later (recordAll earlier state) :=
  List.foldl_append

end Host

namespace Action

open Outcome

variable {σ τ α β : Type} {patience : Nat} {state : σ}

/-! ### Single steps -/

theorem get_bind (next : σ → Action σ α) :
    ((get : Action σ σ) >>= next) patience state = next state patience state := rfl

theorem patience_bind (next : Nat → Action σ α) :
    ((Action.patience : Action σ Nat) >>= next) patience state = next patience patience state := rfl

theorem lift_ok_bind (answer : α) (next : α → Action σ β) :
    ((liftM (Except.ok answer : Except Error α) : Action σ α) >>= next) patience state =
      next answer patience state := rfl

theorem note_bind [Host σ] (notice : Notice) (next : Unit → Action σ α) :
    (Host.note notice >>= next) patience state = next () patience (Host.record notice state) := rfl

theorem bind_of_done {first : Action σ α} {next : α → Action σ β} {answer : α} {middle : σ}
    (done : first patience state = .done answer middle) :
    (first >>= next) patience state = next answer patience middle := by
  rw [bind_apply, done]

theorem bind_of_failed {first : Action σ α} {next : α → Action σ β} {error : Error} {middle : σ}
    (failed : first patience state = .failed error middle) :
    (first >>= next) patience state = .failed error middle := by
  rw [bind_apply, failed]

theorem bind_eq_done_iff (first : Action σ α) (next : α → Action σ β) (result : β) (after : σ) :
    (first >>= next) patience state = .done result after ↔
      ∃ answer middle, first patience state = .done answer middle ∧
        next answer patience middle = .done result after := by
  rw [bind_apply]
  cases first patience state with
  | done found middle =>
    simp only [done.injEq]
    constructor
    · intro rest
      exact ⟨found, middle, ⟨rfl, rfl⟩, rest⟩
    · rintro ⟨_, _, ⟨rfl, rfl⟩, rest⟩
      exact rest
  | failed error middle => simp
  | waiting => simp

theorem attempt_of_done {act : Action σ α} {answer : α} {after : σ}
    (done : act patience state = .done answer after) :
    act.attempt patience state = .done (.ok answer) after := by
  simp only [attempt, done]

theorem attempt_of_failed {act : Action σ α} {error : Error} {after : σ}
    (failed : act patience state = .failed error after) :
    act.attempt patience state = .done (.error error) after := by
  simp only [attempt, failed]

theorem on_of_done {part : Part τ σ} {inner : Action σ α} {whole : τ} {answer : α} {after : σ}
    (done : inner patience (part.get whole) = .done answer after) :
    inner.on part patience whole = .done answer (part.put after whole) := by
  simp only [on, done]

theorem attempt_ended (act : Action σ α) :
    (act.attempt patience state).ended =
      (act patience state).ended.map fun (result, after) => (.ok result, after) := by
  unfold attempt
  cases act patience state <;> rfl

theorem on_ended (part : Part τ σ) (inner : Action σ α) (whole : τ) :
    (inner.on part patience whole).ended =
      (inner patience (part.get whole)).ended.map fun (result, after) =>
        (result, part.put after whole) := by
  unfold on
  cases inner patience (part.get whole) <;> rfl

theorem on_eq_done_iff (part : Part τ σ) (inner : Action σ α) (whole after : τ) (answer : α) :
    inner.on part patience whole = .done answer after ↔
      ∃ middle, inner patience (part.get whole) = .done answer middle ∧
        part.put middle whole = after := by
  unfold on
  cases inner patience (part.get whole) with
  | done found middle =>
    simp only [done.injEq]
    constructor
    · rintro ⟨same, put⟩
      exact ⟨middle, ⟨same, rfl⟩, put⟩
    · rintro ⟨_, ⟨same, rfl⟩, put⟩
      exact ⟨same, put⟩
  | failed error middle => simp
  | waiting => simp

theorem onFailure_eq_done_iff (first : Action σ α) (react : Error → Action σ Unit)
    (answer : α) (after : σ) :
    first.onFailure react patience state = .done answer after ↔
      first patience state = .done answer after := by
  unfold onFailure
  rw [bind_apply]
  unfold attempt
  cases first patience state with
  | done found middle => exact Iff.rfl
  | failed error middle =>
    change (react error >>= fun _ => fail error) patience middle = _ ↔ _
    rw [bind_eq_done_iff]
    simp [fail]
  | waiting => simp

theorem ofExcept_eq_done_iff (result : Except Error α) (answer : α) (after : σ) :
    ofExcept result patience state = .done answer after ↔ result = .ok answer ∧ state = after := by
  cases result with
  | ok found => simp [ofExcept, pure_apply]
  | error error => simp [ofExcept, fail]

/-! ### Known answers -/

theorem answers_bind {first : Action σ α} {next : α → Action σ β} {answer : α} {result : β}
    {middle post : σ → Prop} (start : (first patience state).Answers answer middle)
    (rest : ∀ state, middle state → (next answer patience state).Answers result post) :
    ((first >>= next) patience state).Answers result post := by
  obtain ⟨between, same, holds⟩ := start
  rw [bind_of_done same]
  exact rest between holds

theorem answers_pure {answer : α} {post : σ → Prop} (holds : post state) :
    ((pure answer : Action σ α) patience state).Answers answer post :=
  ⟨state, rfl, holds⟩

theorem answers_on {part : Part τ σ} {inner : Action σ α} {whole : τ} {answer : α}
    {post : τ → Prop}
    (answers : (inner patience (part.get whole)).Answers answer fun state =>
      post (part.put state whole)) :
    (inner.on part patience whole).Answers answer post := by
  obtain ⟨middle, same, holds⟩ := answers
  exact ⟨part.put middle whole, on_of_done same, holds⟩

theorem answers_onFailure {first : Action σ α} {react : Error → Action σ Unit} {answer : α}
    {post : σ → Prop} (answers : (first patience state).Answers answer post) :
    (first.onFailure react patience state).Answers answer post := by
  obtain ⟨middle, same, holds⟩ := answers
  exact ⟨middle, (onFailure_eq_done_iff ..).mpr same, holds⟩

/-! ### Invariants of actions that end -/

/-- From any state of the invariant the action ends, in a state of the invariant. -/
def Stays (invariant : σ → Prop) (patience : Nat) (act : Action σ α) : Prop :=
  ∀ state, invariant state → (act patience state).Ends fun _ after => invariant after

variable {invariant : σ → Prop}

theorem stays_pure (answer : α) : Stays invariant patience (pure answer : Action σ α) :=
  fun _ holds => holds

theorem stays_fail (error : Error) : Stays invariant patience (fail error : Action σ α) :=
  fun _ holds => holds

theorem stays_ofExcept (result : Except Error α) :
    Stays invariant patience (ofExcept result : Action σ α) := by
  cases result with
  | ok answer => exact stays_pure answer
  | error error => exact stays_fail error

theorem ends_of_answers {first : Action σ α} {next : α → Action σ β} {answer : α}
    {middle : σ → Prop} {post : Except Error β → σ → Prop}
    (start : (first patience state).Answers answer middle)
    (rest : ∀ state, middle state → (next answer patience state).Ends post) :
    ((first >>= next) patience state).Ends post := by
  obtain ⟨between, same, holds⟩ := start
  rw [bind_of_done same]
  exact rest between holds

theorem ends_then {first : Action σ α} {next : α → Action σ β}
    {middle : Except Error α → σ → Prop} {post : Except Error β → σ → Prop}
    (start : (first patience state).Ends middle)
    (stop : ∀ error between, middle (.error error) between → post (.error error) between)
    (rest : ∀ answer between, middle (.ok answer) between →
      (next answer patience between).Ends post) :
    ((first >>= next) patience state).Ends post := by
  rw [bind_apply]
  cases same : first patience state with
  | done answer between =>
    rw [same] at start
    exact rest answer between start
  | failed error between =>
    rw [same] at start
    exact stop error between start
  | waiting =>
    rw [same] at start
    exact start

theorem ends_bind {first : Action σ α} {next : α → Action σ β}
    (start : (first patience state).Ends fun _ after => invariant after)
    (rest : ∀ answer, Stays invariant patience (next answer)) :
    ((first >>= next) patience state).Ends fun _ after => invariant after :=
  ends_then start (fun _ _ holds => holds) fun answer between holds => rest answer between holds

theorem stays_bind {first : Action σ α} {next : α → Action σ β}
    (start : Stays invariant patience first)
    (rest : ∀ answer, Stays invariant patience (next answer)) :
    Stays invariant patience (first >>= next) :=
  fun state holds => ends_bind (start state holds) rest

theorem ends_on {part : Part τ σ} {inner : Action σ α} {whole : τ}
    {post : Except Error α → τ → Prop}
    (ends : (inner patience (part.get whole)).Ends fun answer state =>
      post answer (part.put state whole)) :
    (inner.on part patience whole).Ends post := by
  unfold on
  cases same : inner patience (part.get whole) with
  | done answer middle =>
    rw [same] at ends
    exact ends
  | failed error middle =>
    rw [same] at ends
    exact ends
  | waiting =>
    rw [same] at ends
    exact ends

/-- What ends becomes an answer, whichever end it is. -/
theorem attempt_answers {first : Action σ α}
    (start : (first patience state).Ends fun _ after => invariant after) :
    ∃ result, (first.attempt patience state).Answers result invariant := by
  unfold attempt
  cases same : first patience state with
  | done answer middle =>
    rw [same] at start
    exact ⟨.ok answer, middle, rfl, start⟩
  | failed error middle =>
    rw [same] at start
    exact ⟨.error error, middle, rfl, start⟩
  | waiting =>
    rw [same] at start
    exact start.elim

theorem ends_attempt {first : Action σ α}
    (start : (first patience state).Ends fun _ after => invariant after) :
    (first.attempt patience state).Ends fun _ after => invariant after := by
  obtain ⟨result, answers⟩ := attempt_answers start
  exact answers.ends

theorem stays_attempt {first : Action σ α} (start : Stays invariant patience first) :
    Stays invariant patience first.attempt :=
  fun state holds => ends_attempt (start state holds)

theorem stays_onFailure {first : Action σ α} {react : Error → Action σ Unit}
    (start : Stays invariant patience first)
    (reaction : ∀ error, Stays invariant patience (react error)) :
    Stays invariant patience (first.onFailure react) := by
  apply stays_bind (stays_attempt start)
  intro answer
  cases answer with
  | ok answer => exact stays_pure answer
  | error error => exact stays_bind (reaction error) fun _ => stays_fail error

theorem stays_ite {condition : Prop} [Decidable condition] {yes no : Action σ α}
    (first : Stays invariant patience yes) (second : Stays invariant patience no) :
    Stays invariant patience (if condition then yes else no) := by
  split
  · exact first
  · exact second

/-! ### Ends that may not come -/

theorem ifEnds_bind {first : Action σ α} {next : α → Action σ β}
    {middle : Except Error α → σ → Prop} {post : Except Error β → σ → Prop}
    (start : (first patience state).IfEnds middle)
    (stop : ∀ error between, middle (.error error) between → post (.error error) between)
    (rest : ∀ answer between, middle (.ok answer) between →
      (next answer patience between).IfEnds post) :
    ((first >>= next) patience state).IfEnds post := by
  rw [bind_apply]
  cases same : first patience state with
  | done answer between =>
    rw [same] at start
    exact rest answer between start
  | failed error between =>
    rw [same] at start
    exact stop error between start
  | waiting => exact True.intro

theorem ifEnds_attempt {act : Action σ α} {post : Except Error (Except Error α) → σ → Prop}
    (ends : (act patience state).IfEnds fun result after => post (.ok result) after) :
    (act.attempt patience state).IfEnds post := by
  unfold attempt
  cases same : act patience state with
  | done answer after =>
    rw [same] at ends
    exact ends
  | failed error after =>
    rw [same] at ends
    exact ends
  | waiting => exact True.intro

theorem ifEnds_on {part : Part τ σ} {inner : Action σ α} {whole : τ}
    {post : Except Error α → τ → Prop}
    (ends : (inner patience (part.get whole)).IfEnds fun result state =>
      post result (part.put state whole)) :
    (inner.on part patience whole).IfEnds post := by
  unfold on
  cases same : inner patience (part.get whole) with
  | done answer middle =>
    rw [same] at ends
    exact ends
  | failed error middle =>
    rw [same] at ends
    exact ends
  | waiting => exact True.intro

end Action

/-! ### Clocks and simulated devices -/

/-- The deadline has been reached when the clock shows this. -/
def Deadline.PassedBy (deadline : Deadline) (instantNs : Nat) : Prop :=
  ∃ limit, deadline.instant? = some limit ∧ limit ≤ instantNs

/-- What looking at the clock keeps, setting a deadline keeps. -/
theorem Deadline.after_answers {σ : Type} [Host σ] {patience : Nat} {state : σ} {kept : σ → Prop}
    (timeoutMs : Nat) (holds : kept state) (looked : kept (Host.now state).2) :
    ∃ deadline, ((Deadline.after timeoutMs : Action σ Deadline) patience state).Answers
      deadline kept := by
  unfold Deadline.after
  split
  · exact ⟨_, _, rfl, holds⟩
  · exact ⟨_, _, rfl, looked⟩

section Deadlines

variable {σ : Type} [Host σ] {patience : Nat} {kept : σ → Prop}

theorem Deadline.after_stays (clock : Action.Stays kept patience Host.clock) (timeoutMs : Nat) :
    Action.Stays kept patience (Deadline.after timeoutMs) :=
  Action.stays_ite (Action.stays_pure _) (Action.stays_bind clock fun _ => Action.stays_pure _)

theorem Deadline.expired_stays (clock : Action.Stays kept patience Host.clock)
    (deadline : Deadline) : Action.Stays kept patience deadline.expired := by
  unfold Deadline.expired
  split
  · exact Action.stays_pure _
  · exact Action.stays_bind clock fun _ => Action.stays_pure _

end Deadlines

-- On an opened bench the kernel reads the field off; else it would compare the clocks first.
theorem Bench.elapse_device {δ : Type} (bench : Bench δ) (milliseconds : Nat) :
    (bench.elapse milliseconds).device = bench.device := by
  obtain ⟨device, clockNs, tickNs, journal⟩ := bench
  rfl

theorem Bench.step_of_ok {δ α : Type} {act : δ → Except Error α × δ} {patience : Nat}
    {bench : Bench δ} {answer : α} {device : δ} (does : act bench.device = (.ok answer, device)) :
    Bench.step act patience bench = .done answer { bench with device } := by
  simp only [Bench.step, Action.ofStep, does]

end NfcLink
