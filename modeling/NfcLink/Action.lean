import NfcLink.Error

/-!
# Actions

Everything the host does is an action on a state: a device, a port around a
device, a channel, an end of a link. An action answers, fails with an error, or
is still waiting when the observer's patience, counted in rounds of a wait, runs
out. A failed action leaves a state too, because the bytes it moved stay moved.

A larger state holds a smaller one as a `Part`, and `on` runs an action of the
part inside the whole.
-/
namespace NfcLink

inductive Outcome (σ α : Type) where
  | done (answer : α) (state : σ)
  | failed (error : Error) (state : σ)
  | waiting
  deriving DecidableEq

def Action (σ α : Type) : Type := Nat → σ → Outcome σ α

namespace Action

variable {σ τ α β : Type}

instance : Monad (Action σ) where
  pure answer := fun _ state => .done answer state
  bind first next := fun patience state =>
    match first patience state with
    | .done answer state => next answer patience state
    | .failed error state => .failed error state
    | .waiting => .waiting

theorem pure_apply (answer : α) (patience : Nat) (state : σ) :
    (pure answer : Action σ α) patience state = .done answer state := rfl

theorem bind_apply (first : Action σ α) (next : α → Action σ β) (patience : Nat) (state : σ) :
    (first >>= next) patience state =
      match first patience state with
      | .done answer state => next answer patience state
      | .failed error state => .failed error state
      | .waiting => .waiting := rfl

instance : LawfulMonad (Action σ) := LawfulMonad.mk' _
  (fun first => by
    funext patience state
    change (match first patience state with
      | .done answer state => .done answer state
      | .failed error state => .failed error state
      | .waiting => .waiting) = first patience state
    cases first patience state <;> rfl)
  (fun _ _ => rfl)
  (fun first _ _ => by
    funext patience state
    simp only [bind_apply]
    cases first patience state <;> rfl)

def fail (error : Error) : Action σ α := fun _ state => .failed error state

/-- A wait that this observer does not see the end of. -/
def unfinished : Action σ α := fun _ _ => .waiting

def ofExcept : Except Error α → Action σ α
  | .ok answer => pure answer
  | .error error => fail error

instance : MonadLift (Except Error) (Action σ) where
  monadLift := ofExcept

def get : Action σ σ := fun _ state => .done state state

def modify (change : σ → σ) : Action σ Unit := fun _ state => .done () (change state)

/-- A step that always comes to an end. -/
def ofStep (step : σ → Except Error α × σ) : Action σ α := fun _ state =>
  match step state with
  | (.ok answer, state) => .done answer state
  | (.error error, state) => .failed error state

/-- Rounds that a wait may take before the observer leaves. -/
def patience : Action σ Nat := fun patience state => .done patience state

/-- Turns a failure into an answer, so that the caller decides what follows it. -/
def attempt (first : Action σ α) : Action σ (Except Error α) := fun patience state =>
  match first patience state with
  | .done answer state => .done (.ok answer) state
  | .failed error state => .done (.error error) state
  | .waiting => .waiting

/-- Does something about a failure and lets it pass on. -/
def onFailure (first : Action σ α) (react : Error → Action σ Unit) : Action σ α := do
  match ← first.attempt with
  | .ok answer => pure answer
  | .error error => do
    react error
    fail error

end Action

/-- A value inside a larger one, which can be looked at and replaced. -/
structure Part (τ σ : Type) where
  get : τ → σ
  put : σ → τ → τ

namespace Action

variable {σ τ α : Type}

def on (part : Part τ σ) (inner : Action σ α) : Action τ α := fun patience whole =>
  match inner patience (part.get whole) with
  | .done answer state => .done answer (part.put state whole)
  | .failed error state => .failed error (part.put state whole)
  | .waiting => .waiting

end Action

end NfcLink
