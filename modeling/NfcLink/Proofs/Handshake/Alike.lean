import NfcLink.Proofs.Returns

/-!
# Transports that behave alike

Two transports behave alike on related states if each call ends on the one as it does on
the other and leaves states that are related again. Nobody above can then tell one from
the other: the handshake is written against transports in general, and `Agree` has a rule
for each way in which it puts its calls together.
-/
namespace NfcLink

open NfcLink.Action Outcome

variable {ρ σ τ α β : Type}

/-- The same end, in states that are related, or no end on either side. -/
inductive Outcome.Alike (related : σ → τ → Prop) : Outcome σ α → Outcome τ α → Prop where
  | done (answer : α) {one : σ} {other : τ} :
      related one other → Alike related (.done answer one) (.done answer other)
  | failed (error : Error) {one : σ} {other : τ} :
      related one other → Alike related (.failed error one) (.failed error other)
  | waiting : Alike related .waiting .waiting

theorem Outcome.Alike.mono {related weaker : σ → τ → Prop} {one : Outcome σ α}
    {other : Outcome τ α} (alike : one.Alike related other)
    (weaken : ∀ {one other}, related one other → weaker one other) : one.Alike weaker other := by
  cases alike with
  | done answer holds => exact .done answer (weaken holds)
  | failed error holds => exact .failed error (weaken holds)
  | waiting => exact .waiting

namespace Action

/-- From related states both actions come to the same end, in related states. -/
def Agree (related : σ → τ → Prop) (patience : Nat) (act : Action σ α) (image : Action τ α) :
    Prop :=
  ∀ one other, related one other → (act patience one).Alike related (image patience other)

variable {related : σ → τ → Prop} {patience : Nat}

theorem agree_pure (answer : α) :
    Agree related patience (pure answer : Action σ α) (pure answer : Action τ α) :=
  fun _ _ holds => .done answer holds

theorem agree_fail (error : Error) :
    Agree related patience (fail error : Action σ α) (fail error : Action τ α) :=
  fun _ _ holds => .failed error holds

theorem agree_unfinished :
    Agree related patience (unfinished : Action σ α) (unfinished : Action τ α) :=
  fun _ _ _ => .waiting

theorem agree_ofExcept (result : Except Error α) :
    Agree related patience (ofExcept result : Action σ α) (ofExcept result : Action τ α) := by
  cases result with
  | ok answer => exact agree_pure answer
  | error error => exact agree_fail error

theorem agree_modify {change : σ → σ} {image : τ → τ}
    (changed : ∀ {one other}, related one other → related (change one) (image other)) :
    Agree related patience (Action.modify change) (Action.modify image) :=
  fun _ _ holds => .done () (changed holds)

theorem Agree.bind {act : Action σ α} {image : Action τ α} {next : α → Action σ β}
    {nextImage : α → Action τ β} (start : Agree related patience act image)
    (rest : ∀ answer, Agree related patience (next answer) (nextImage answer)) :
    Agree related patience (act >>= next) (image >>= nextImage) := by
  intro one other holds
  have begun := start one other holds
  rw [bind_apply, bind_apply]
  generalize act patience one = first at begun ⊢
  generalize image patience other = second at begun ⊢
  cases begun with
  | done answer kept => exact rest answer _ _ kept
  | failed error kept => exact .failed error kept
  | waiting => exact .waiting

/-- What is looked up may differ, if what follows does not depend on that. -/
theorem agree_get_bind {next : σ → Action σ α} {image : τ → Action τ α}
    (rest : ∀ {one other}, related one other → Agree related patience (next one) (image other)) :
    Agree related patience (get >>= next) (get >>= image) :=
  fun one other holds => rest holds one other holds

theorem agree_patience_bind {next : Nat → Action σ α} {image : Nat → Action τ α}
    (rest : Agree related patience (next patience) (image patience)) :
    Agree related patience (Action.patience >>= next) (Action.patience >>= image) :=
  rest

theorem Agree.attempt {act : Action σ α} {image : Action τ α}
    (agree : Agree related patience act image) :
    Agree related patience act.attempt image.attempt := by
  intro one other holds
  have ends := agree one other holds
  unfold Action.attempt
  generalize act patience one = first at ends ⊢
  generalize image patience other = second at ends ⊢
  cases ends with
  | done answer kept => exact Alike.done (Except.ok answer) kept
  | failed error kept => exact Alike.done (Except.error error) kept
  | waiting => exact .waiting

theorem Agree.onFailure {act : Action σ α} {image : Action τ α} {react : Error → Action σ Unit}
    {reactImage : Error → Action τ Unit} (agree : Agree related patience act image)
    (reaction : ∀ error, Agree related patience (react error) (reactImage error)) :
    Agree related patience (act.onFailure react) (image.onFailure reactImage) := by
  apply agree.attempt.bind
  intro result
  cases result with
  | ok answer => exact agree_pure answer
  | error error => exact (reaction error).bind fun _ => agree_fail error

theorem agree_ite {condition : Prop} [Decidable condition] {yes no : Action σ α}
    {yesImage noImage : Action τ α} (first : Agree related patience yes yesImage)
    (second : Agree related patience no noImage) :
    Agree related patience (if condition then yes else no)
      (if condition then yesImage else noImage) := by
  split
  · exact first
  · exact second

end Action

/-! ### Transports -/

/-- Each call ends on the one as on the other, and nothing else that the handshake looks at tells
them apart. -/
structure Transport.Alike [Host σ] [Transport σ] [Host τ] [Transport τ]
    (related : σ → τ → Prop) (patience : Nat) : Prop where
  kind : ∀ {one other}, related one other → Transport.kind other = Transport.kind one
  ackBudgetMs : ∀ {one other}, related one other →
    Transport.ackBudgetMs other = Transport.ackBudgetMs one
  noted : ∀ {one other}, related one other → ∀ notice,
    related (Host.record notice one) (Host.record notice other)
  slept : ∀ {one other}, related one other → ∀ milliseconds,
    related (Host.sleep milliseconds one) (Host.sleep milliseconds other)
  called : ∀ operation : TransportOperation,
    Agree related patience (operation.perform : Action σ operation.Answer)
      (operation.perform : Action τ operation.Answer)

namespace Transport.Alike

variable [Host σ] [Transport σ] [Host τ] [Transport τ] {related : σ → τ → Prop} {patience : Nat}
  (alike : Transport.Alike related patience)
include alike

theorem note (notice : BusKind → Notice) :
    Agree related patience (Transport.note notice : Action σ Unit) (Transport.note notice) := by
  apply agree_get_bind
  intro one other holds
  rw [alike.kind holds]
  exact agree_modify fun holds => alike.noted holds _

theorem pause (milliseconds : Nat) :
    Agree related patience (Host.pause milliseconds : Action σ Unit) (Host.pause milliseconds) :=
  agree_ite (agree_pure ()) (agree_modify fun holds => alike.slept holds milliseconds)

/-- Induction on the pauses that are left. -/
theorem pollWithin (left : Nat) :
    Agree related patience (Transport.pollWithin left : Action σ Unit)
      (Transport.pollWithin left) := by
  induction left with
  | zero =>
    apply (alike.called .poll).bind
    intro (ready : Bool)
    exact agree_ite (agree_pure ()) (agree_fail .timeout)
  | succ left ih =>
    apply (alike.called .poll).bind
    intro (ready : Bool)
    exact agree_ite (agree_pure ()) ((alike.pause _).bind fun _ => ih)

/-- Induction on the rounds that the observer stays for. -/
theorem pollForever (rounds : Nat) :
    Agree related patience (Transport.pollForever rounds : Action σ Unit)
      (Transport.pollForever rounds) := by
  induction rounds with
  | zero => exact agree_unfinished
  | succ rounds ih =>
    apply (alike.called .poll).bind
    intro (ready : Bool)
    exact agree_ite (agree_pure ()) ((alike.pause _).bind fun _ => ih)

theorem awaitReady (budgetMs : Nat) :
    Agree related patience (Transport.awaitReady budgetMs : Action σ Unit)
      (Transport.awaitReady budgetMs) :=
  agree_ite (agree_patience_bind (alike.pollForever patience)) (alike.pollWithin budgetMs)

theorem putCommand (header body : Bytes) :
    Agree related patience (Transport.putCommand header body : Action σ Unit)
      (Transport.putCommand header body) := by
  apply (agree_ofExcept _).bind
  intro frame
  apply (alike.note _).bind
  intro _
  apply (alike.called (.send frame)).bind
  intro _
  apply agree_get_bind
  intro one other holds
  rw [alike.ackBudgetMs holds]
  apply ((alike.awaitReady _).onFailure fun _ => alike.note _).bind
  intro _
  apply (alike.called (.receive _ _)).bind
  intro ack
  apply (alike.note _).bind
  intro _
  exact (agree_ofExcept _).onFailure fun _ => alike.note _

theorem takeResponse (command : UInt8) (timeoutMs capacity : Nat) :
    Agree related patience (Transport.takeResponse command timeoutMs capacity : Action σ Bytes)
      (Transport.takeResponse command timeoutMs capacity) := by
  apply (alike.awaitReady _).bind
  intro _
  apply (alike.called (.receive _ _)).bind
  intro head
  apply ((agree_ofExcept _).onFailure fun _ => alike.note _).bind
  intro length
  apply agree_ite (agree_fail _)
  apply (alike.called (.receive _ _)).bind
  intro rest
  apply (alike.note _).bind
  intro _
  apply (agree_ofExcept _).bind
  intro frame
  apply (agree_ofExcept _).bind
  intro payload
  exact agree_ofExcept _

end Transport.Alike

/-! ### Everything that a transport is used for -/

inductive HandshakeOperation where
  | call (operation : TransportOperation)
  | awaitReady (budgetMs : Nat)
  | putCommand (header body : Bytes)
  | takeResponse (command : UInt8) (timeoutMs capacity : Nat)
  deriving DecidableEq, Repr

namespace HandshakeOperation

def Answer : HandshakeOperation → Type
  | call operation => operation.Answer
  | takeResponse _ _ _ => Bytes
  | _ => Unit

def perform [Host σ] [Transport σ] :
    (operation : HandshakeOperation) → Action σ operation.Answer
  | call operation => operation.perform
  | awaitReady budgetMs => Transport.awaitReady budgetMs
  | putCommand header body => Transport.putCommand header body
  | takeResponse command timeoutMs capacity => Transport.takeResponse command timeoutMs capacity

end HandshakeOperation

theorem Transport.Alike.performed [Host σ] [Transport σ] [Host τ] [Transport τ]
    {related : σ → τ → Prop} {patience : Nat} (alike : Transport.Alike related patience)
    (operation : HandshakeOperation) :
    Agree related patience (operation.perform : Action σ operation.Answer)
      (operation.perform : Action τ operation.Answer) := by
  cases operation with
  | call operation => exact alike.called operation
  | awaitReady budgetMs => exact alike.awaitReady budgetMs
  | putCommand header body => exact alike.putCommand header body
  | takeResponse command timeoutMs capacity => exact alike.takeResponse command timeoutMs capacity

end NfcLink
