import NfcLink.Proofs.Outcome

/-!
# Access by position

A program that takes byte strings apart by position can miss: with an index behind the
end, with a slice that reaches too far or ends before it begins, with a copy between
stretches of different lengths, with a difference below zero. Each of these steps is
given here as one that may have no result. A miss is neither an answer nor an error, and
nothing comes after it.

A `Reading` looks at bytes by position, a `Positional` operation does so between the
steps of an action. The two judgments say that nothing is missed and what comes out:
`Gives` of a reading, `Matches` of an operation, which then does what the action does.
Each has a rule for every way of composing, as the judgments about actions have.
-/
namespace NfcLink

variable {σ τ α β : Type}

/-! ### Steps that can miss -/

def difference? (whole part : Nat) : Option Nat :=
  if part ≤ whole then some (whole - part) else none

theorem found_bind {access : Option α} {answer : α} (found : access = some answer)
    (next : α → Option β) : (access >>= next) = next answer := by
  rw [found]
  rfl

theorem difference_of_le {whole part : Nat} (within : part ≤ whole) :
    difference? whole part = some (whole - part) := if_pos within

namespace Bytes

def octet? (data : Bytes) (position : Nat) : Option UInt8 := data[position]?

/-- The octets from position `start` on and before position `stop`. -/
def slice? (data : Bytes) (start stop : Nat) : Option Bytes :=
  if start ≤ stop ∧ stop ≤ data.length then some ((data.drop start).take (stop - start)) else none

/-- The octets from position `start` on. -/
def sliceFrom? (data : Bytes) (start : Nat) : Option Bytes := data.slice? start data.length

/-- What `source` leaves behind in a stretch that it is copied over. -/
def copyOver? (stretch source : Bytes) : Option Bytes :=
  if stretch.length = source.length then some source else none

def replaceAt? (data : Bytes) (position : Nat) (octet : UInt8) : Option Bytes :=
  if position < data.length then some (data.set position octet) else none

def removeFirst? : Bytes → Option Bytes
  | [] => none
  | _ :: rest => some rest

theorem slice_of_le {data : Bytes} {start stop : Nat} (ordered : start ≤ stop)
    (within : stop ≤ data.length) :
    data.slice? start stop = some ((data.drop start).take (stop - start)) :=
  if_pos ⟨ordered, within⟩

theorem slice_front {data : Bytes} {stop : Nat} (within : stop ≤ data.length) :
    data.slice? 0 stop = some (data.take stop) :=
  slice_of_le (Nat.zero_le stop) within

theorem sliceFrom_of_le {data : Bytes} {start : Nat} (within : start ≤ data.length) :
    data.sliceFrom? start = some (data.drop start) := by
  have whole : (data.drop start).take (data.length - start) = data.drop start := by
    rw [← List.length_drop, List.take_length]
  rw [sliceFrom?, slice_of_le within (Nat.le_refl _), whole]

theorem copyOver_of_eq {stretch source : Bytes} (same : stretch.length = source.length) :
    stretch.copyOver? source = some source := if_pos same

end Bytes

/-! ### Readings -/

/-- An answer, an error, or a miss. -/
abbrev Reading (α : Type) : Type := ExceptT Error Option α

namespace Reading

/-- Nothing is missed, and this is the result. -/
def Gives (reading : Reading α) (result : Except Error α) : Prop := reading.run = some result

theorem gives_pure (answer : α) : Gives (pure answer) (.ok answer) := rfl

theorem gives_throw (error : Error) : Gives (throw error : Reading α) (.error error) := rfl

theorem gives_lift {check result : Except Error α} (same : check = result) :
    Gives (liftM check) result := congrArg some same

theorem gives_access {access : Option α} {answer : α} (found : access = some answer) :
    Gives (liftM access) (.ok answer) := congrArg (Option.map Except.ok) found

theorem Gives.andThen {first : Reading α} {next : α → Reading β} {answer : α}
    {result : Except Error β} (start : first.Gives (.ok answer))
    (rest : (next answer).Gives result) : (first >>= next).Gives result := by
  change (first.run >>= ExceptT.bindCont next) = _
  rw [start]
  exact rest

theorem Gives.stop {first : Reading α} {error : Error} (start : first.Gives (.error error))
    (next : α → Reading β) : (first >>= next).Gives (.error error) := by
  change (first.run >>= ExceptT.bindCont next) = _
  rw [start]
  rfl

theorem Gives.bind {first : Reading α} {next : α → Reading β} {result : Except Error α}
    {follow : α → Except Error β} (start : first.Gives result)
    (rest : ∀ answer, result = .ok answer → (next answer).Gives (follow answer)) :
    (first >>= next).Gives (result >>= follow) := by
  cases result with
  | ok answer => exact start.andThen (rest answer rfl)
  | error error => exact start.stop next

end Reading

/-! ### Operations -/

/-- Every answer of the action is of this kind. -/
def Action.AnswersOnly (act : Action σ α) (kind : α → Prop) : Prop :=
  ∀ {patience state answer after}, act patience state = .done answer after → kind answer

/-- An action in which a step can miss. -/
def Positional (σ α : Type) : Type := Nat → σ → Option (Outcome σ α)

namespace Positional

/-- What comes of an outcome when the operation goes on. -/
def proceed (next : α → Positional σ β) (patience : Nat) : Outcome σ α → Option (Outcome σ β)
  | .done answer state => next answer patience state
  | .failed error state => some (.failed error state)
  | .waiting => some .waiting

instance : Monad (Positional σ) where
  pure answer := fun _ state => some (.done answer state)
  bind first next := fun patience state => (first patience state).bind (proceed next patience)

instance : LawfulMonad (Positional σ) := LawfulMonad.mk' _
  (fun first => by
    funext patience state
    change (first patience state).bind (proceed pure patience) = first patience state
    rcases first patience state with _ | ⟨answer, after⟩ | ⟨error, after⟩ | _ <;> rfl)
  (fun _ _ => rfl)
  (fun first next last => by
    funext patience state
    change ((first patience state).bind _).bind _ = (first patience state).bind _
    rcases first patience state with _ | ⟨answer, after⟩ | ⟨error, after⟩ | _ <;> rfl)

/-- An action that looks at no position. -/
def plain (act : Action σ α) : Positional σ α := fun patience state => some (act patience state)

def read (reading : Reading α) : Positional σ α := fun _ state =>
  match reading.run with
  | some (.ok answer) => some (.done answer state)
  | some (.error error) => some (.failed error state)
  | none => none

instance : MonadLift Option (Positional σ) where
  monadLift access := read (liftM access)

/-- An error becomes an answer, a miss does not. -/
def attempt (first : Positional σ α) : Positional σ (Except Error α) := fun patience state =>
  (first patience state).map fun
    | .done answer state => .done (.ok answer) state
    | .failed error state => .done (.error error) state
    | .waiting => .waiting

def onFailure (first : Positional σ α) (react : Error → Action σ Unit) : Positional σ α := do
  match ← first.attempt with
  | .ok answer => pure answer
  | .error error => do
    plain (react error)
    plain (Action.fail error)

def on (part : Part τ σ) (inner : Positional σ α) : Positional τ α := fun patience whole =>
  (inner patience (part.get whole)).map fun
    | .done answer state => .done answer (part.put state whole)
    | .failed error state => .failed error (part.put state whole)
    | .waiting => .waiting

/-- Nothing is missed from any state, and the operation does what the action does. -/
def Matches (operation : Positional σ α) (act : Action σ α) : Prop :=
  ∀ patience state, operation patience state = some (act patience state)

/-- Nothing is missed from this state, and the operation comes to an answer or an error. -/
def Concludes (operation : Positional σ α) (patience : Nat) (state : σ) : Prop :=
  ∃ outcome, operation patience state = some outcome ∧ outcome.Ends fun _ _ => True

theorem Matches.concludes {operation : Positional σ α} {act : Action σ α}
    (same : operation.Matches act) {patience : Nat} {state : σ} {post : Except Error α → σ → Prop}
    (ends : (act patience state).Ends post) : operation.Concludes patience state :=
  ⟨_, same patience state, ends.mono fun _ _ _ => True.intro⟩

theorem matches_pure (answer : α) : Matches (pure answer : Positional σ α) (pure answer) :=
  fun _ _ => rfl

theorem matches_plain (act : Action σ α) : Matches (plain act) act := fun _ _ => rfl

theorem bind_of_some {first : Positional σ α} {next : α → Positional σ β} {patience : Nat}
    {state : σ} {outcome : Outcome σ α} (found : first patience state = some outcome) :
    (first >>= next) patience state = proceed next patience outcome := by
  change (first patience state).bind (proceed next patience) = _
  rw [found, Option.bind_some]

theorem Matches.bind {first : Positional σ α} {next : α → Positional σ β} {act : Action σ α}
    {follow : α → Action σ β} (start : first.Matches act)
    (rest : ∀ answer, (next answer).Matches (follow answer)) :
    (first >>= next).Matches (act >>= follow) := by
  intro patience state
  rw [bind_of_some (start patience state), Action.bind_apply]
  cases act patience state with
  | done answer after => exact rest answer patience after
  | failed error after => rfl
  | waiting => rfl

/-- An action in front that looks at no position. -/
theorem matches_then {act : Action σ α} {next : α → Positional σ β} {follow : α → Action σ β}
    (rest : ∀ answer, (next answer).Matches (follow answer)) :
    (plain act >>= next).Matches (act >>= follow) :=
  (matches_plain act).bind rest

/-- What comes after an action may rest on what all its answers have in common. -/
theorem matches_then_of {kind : α → Prop} {act : Action σ α} {next : α → Positional σ β}
    {follow : α → Action σ β} (answers : act.AnswersOnly kind)
    (rest : ∀ answer, kind answer → (next answer).Matches (follow answer)) :
    (plain act >>= next).Matches (act >>= follow) := by
  intro patience state
  rw [bind_of_some (matches_plain act patience state), Action.bind_apply]
  cases found : act patience state with
  | done answer after => exact rest answer (answers found) patience after
  | failed error after => rfl
  | waiting => rfl

theorem plain_pure (answer : α) : plain (pure answer : Action σ α) = pure answer := rfl

theorem plain_bind (act : Action σ α) (next : α → Action σ β) :
    plain (act >>= next) = plain act >>= fun answer => plain (next answer) := by
  funext patience state
  exact ((matches_then fun answer => matches_plain (next answer)) patience state).symm

theorem matches_read {reading : Reading α} {result : Except Error α}
    (gives : reading.Gives result) :
    Matches (read reading : Positional σ α) (Action.ofExcept result) := by
  intro patience state
  rw [read, show reading.run = some result from gives]
  cases result <;> rfl

theorem matches_read_then {reading : Reading α} {next : α → Positional σ β} {answer : α}
    {follow : Action σ β} (gives : reading.Gives (.ok answer))
    (rest : (next answer).Matches follow) : (read reading >>= next).Matches follow := by
  intro patience state
  rw [bind_of_some (matches_read gives patience state)]
  exact rest patience state

theorem matches_access {access : Option α} {next : α → Positional σ β} {answer : α}
    {follow : Action σ β} (found : access = some answer) (rest : (next answer).Matches follow) :
    Matches (liftM access >>= next) follow :=
  matches_read_then (Reading.gives_access found) rest

theorem matches_read_stop {reading : Reading α} {error : Error}
    (gives : reading.Gives (.error error)) (next : α → Positional σ β) :
    (read reading >>= next).Matches (Action.fail error) := by
  intro patience state
  rw [bind_of_some (matches_read gives patience state)]
  rfl

/-- What comes after a reading may rest on what was read. -/
theorem matches_read_bind {reading : Reading α} {result : Except Error α}
    {next : α → Positional σ β} {follow : α → Action σ β} (gives : reading.Gives result)
    (rest : ∀ answer, result = .ok answer → (next answer).Matches (follow answer)) :
    (read reading >>= next).Matches (liftM result >>= follow) := by
  cases result with
  | ok answer => exact matches_read_then gives (rest answer rfl)
  | error error => exact matches_read_stop gives next

theorem Matches.attempt {operation : Positional σ α} {act : Action σ α}
    (same : operation.Matches act) : operation.attempt.Matches act.attempt := by
  intro patience state
  rw [Positional.attempt, same, Action.attempt]
  cases act patience state <;> rfl

theorem Matches.onFailure {operation : Positional σ α} {act : Action σ α}
    (same : operation.Matches act) (react : Error → Action σ Unit) :
    (operation.onFailure react).Matches (act.onFailure react) := by
  apply same.attempt.bind
  intro result
  cases result with
  | ok answer => exact matches_pure answer
  | error error => exact matches_then fun _ => matches_plain _

theorem Matches.on {operation : Positional σ α} {act : Action σ α} (same : operation.Matches act)
    (part : Part τ σ) : (operation.on part).Matches (act.on part) := by
  intro patience whole
  rw [Positional.on, same, Action.on]
  cases act patience (part.get whole) <;> rfl

theorem matches_ite {condition : Prop} [Decidable condition] {yes no : Positional σ α}
    {act other : Action σ α} (first : yes.Matches act) (second : no.Matches other) :
    Matches (if condition then yes else no) (if condition then act else other) := by
  split
  · exact first
  · exact second

theorem Matches.map {operation : Positional σ α} {act : Action σ α} (same : operation.Matches act)
    (change : α → β) :
    Matches (do let answer ← operation; pure (change answer)) (do
      let answer ← act
      pure (change answer)) :=
  same.bind fun _ => matches_pure _

theorem Matches.discard {operation : Positional σ α} {act : Action σ α}
    (same : operation.Matches act) : Matches (discard operation) (discard act) :=
  same.bind fun _ => matches_pure _

end Positional

end NfcLink
