import NfcLink.Action
import NfcLink.Journal

/-!
# Host services

The clock that a wait is measured by, the pause between two polls, and the
journal. Looking at the clock may itself take time, so it is a step of the
state. Instants are nanoseconds from some fixed start; timeouts are whole
milliseconds and zero means that there is none.
-/
namespace NfcLink

class Host (σ : Type) where
  now : σ → Nat × σ
  sleep : Nat → σ → σ
  record : Notice → σ → σ

namespace Host

variable {σ τ : Type}

/-- The services of a part serve the whole. -/
@[reducible] def through [Host σ] (part : Part τ σ) : Host τ where
  now whole :=
    let (instant, state) := now (part.get whole)
    (instant, part.put state whole)
  sleep milliseconds whole := part.put (sleep milliseconds (part.get whole)) whole
  record notice whole := part.put (record notice (part.get whole)) whole

def clock [Host σ] : Action σ Nat := fun _ state =>
  let (instant, state) := now state
  .done instant state

def pause [Host σ] (milliseconds : Nat) : Action σ Unit :=
  if milliseconds = 0 then pure () else Action.modify (sleep milliseconds)

def note [Host σ] (notice : Notice) : Action σ Unit := Action.modify (record notice)

end Host

def nanosecondsPerMillisecond : Nat := 1000000

/-- Whole seconds of a span, and the milliseconds left over. -/
def splitMilliseconds (milliseconds : Nat) : Nat × Nat :=
  (milliseconds / 1000, milliseconds % 1000)

/-- Interval between two polls of a controller that is not ready. -/
def pollIntervalMs : Nat := 1

/-- An instant after which an operation gives up, or none. -/
structure Deadline where
  instant? : Option Nat
  deriving DecidableEq, Repr

namespace Deadline

variable {σ : Type} [Host σ]

def never : Deadline := ⟨none⟩

def after (timeoutMs : Nat) : Action σ Deadline :=
  if timeoutMs = 0 then pure never
  else do
    let now ← Host.clock
    return ⟨some (now + timeoutMs * nanosecondsPerMillisecond)⟩

def expired (deadline : Deadline) : Action σ Bool :=
  match deadline.instant? with
  | none => pure false
  | some instant => do
    let now ← Host.clock
    return decide (instant ≤ now)

/-- Whole milliseconds left, the started one not counted. -/
def remainingMs (deadline : Deadline) : Action σ (Option Nat) :=
  match deadline.instant? with
  | none => pure none
  | some instant => do
    let now ← Host.clock
    return some ((instant - now) / nanosecondsPerMillisecond)

end Deadline

end NfcLink
