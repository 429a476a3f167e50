import NfcLink.Proofs.Handshake.Alike
import NfcLink.Proofs.Handshake.Overheard

/-!
# Metered transports

A meter between the handshake and its transport counts the calls and the pauses, in order,
and changes nothing. `Spends` says what an action has cost when it comes to an end, with a
rule for each way in which the handshake puts its calls together.
-/
namespace NfcLink

open NfcLink.Action Outcome

/-- A call on a transport, or a pause of so many milliseconds. -/
inductive Expense where
  | call (call : TransportCall)
  | pause (milliseconds : Nat)

/-- A poll or a pause. -/
def Expense.Idle : Expense → Prop
  | .call (.polled _) => True
  | .call _ => False
  | .pause _ => True

structure Metered (σ : Type) where
  inner : σ
  spent : List Expense := []

namespace Metered

variable {σ α β : Type}

def innerPart : Part (Metered σ) σ :=
  ⟨Metered.inner, fun inner metered => { metered with inner }⟩

instance [Host σ] : Host (Metered σ) :=
  { Host.through innerPart with
    sleep := fun milliseconds metered =>
      ⟨Host.sleep milliseconds metered.inner, metered.spent ++ [.pause milliseconds]⟩ }

/-- Hands a call on and adds it to what was spent. -/
def call (seen : Except Error α → TransportCall) (act : Action σ α) : Action (Metered σ) α := do
  let result ← (act.on innerPart).attempt
  Action.modify fun metered => { metered with spent := metered.spent ++ [.call (seen result)] }
  Action.ofExcept result

instance [Transport σ] : Transport (Metered σ) where
  kind metered := Transport.kind metered.inner
  ackBudgetMs metered := Transport.ackBudgetMs metered.inner
  openBus := call .opened Transport.openBus
  wake := call .woken Transport.wake
  poll := call .polled Transport.poll
  send frame := call (.sent frame) (Transport.send frame)
  receive wanted timeoutMs :=
    call (.received wanted timeoutMs) (Transport.receive wanted timeoutMs)

theorem call_ended (seen : Except Error α → TransportCall) (act : Action σ α) (patience : Nat)
    (first : σ) (spent : List Expense) :
    (call seen act patience ⟨first, spent⟩).ended =
      (act patience first).ended.map fun (result, inner) =>
        (result, ⟨inner, spent ++ [.call (seen result)]⟩) := by
  unfold call
  rw [bind_apply]
  simp only [attempt, on, innerPart]
  cases act patience first with
  | done answer inner => rfl
  | failed error inner => rfl
  | waiting => rfl

theorem call_ifEnds (seen : Except Error α → TransportCall) (act : Action σ α) (patience : Nat)
    (before : Metered σ) :
    (call seen act patience before).IfEnds fun result after =>
      (act patience before.inner).ended = some (result, after.inner) ∧
        after.spent = before.spent ++ [.call (seen result)] := by
  rw [ifEnds_iff]
  intro result after ended
  obtain ⟨⟨_, inner⟩, bare, same⟩ :=
    Option.map_eq_some_iff.mp ((call_ended seen act patience _ _).symm.trans ended)
  cases same
  exact ⟨bare, rfl⟩

/-- With the meter or without it, the calls come to the same. -/
theorem alike [Host σ] [Transport σ] (patience : Nat) :
    Transport.Alike (fun (metered : Metered σ) inner => metered.inner = inner) patience where
  kind := by
    rintro metered _ rfl
    rfl
  ackBudgetMs := by
    rintro metered _ rfl
    rfl
  noted := by
    rintro metered _ rfl notice
    rfl
  slept := by
    rintro metered _ rfl milliseconds
    rfl
  called := by
    have handed {α : Type} (seen : Except Error α → TransportCall) (act : Action σ α) :
        Agree (fun (metered : Metered σ) inner => metered.inner = inner) patience
          (call seen act) act := by
      rintro ⟨inner, spent⟩ _ rfl
      unfold call
      rw [bind_apply]
      simp only [attempt, on, innerPart]
      cases act patience inner with
      | done answer after => exact .done answer rfl
      | failed error after => exact .failed error rfl
      | waiting => exact .waiting
    intro operation
    cases operation with
    | openBus => exact handed _ _
    | wake => exact handed _ _
    | poll => exact handed _ _
    | send frame => exact handed _ _
    | receive wanted timeoutMs => exact handed _ _

/-! ### What is spent -/

variable {patience : Nat}

/-- Whatever the action starts from, this is what it has spent if it comes to an end. -/
def Spends (patience : Nat) (act : Action (Metered σ) α)
    (pays : Except Error α → List Expense → Prop) : Prop :=
  ∀ before, (act patience before).IfEnds fun result after =>
    ∃ expenses, after.spent = before.spent ++ expenses ∧ pays result expenses

section Rules

variable {pays : Except Error α → List Expense → Prop}

theorem spends_pure {answer : α} (free : pays (.ok answer) []) :
    Spends (σ := σ) patience (pure answer) pays :=
  fun _ => ⟨[], (List.append_nil _).symm, free⟩

theorem spends_ofExcept {result : Except Error α} (free : pays result []) :
    Spends (σ := σ) patience (Action.ofExcept result) pays := by
  cases result with
  | ok answer => exact spends_pure free
  | error error => exact fun _ => ⟨[], (List.append_nil _).symm, free⟩

theorem spends_call (seen : Except Error α → TransportCall) (act : Action σ α) :
    Spends patience (call seen act) fun result expenses => expenses = [.call (seen result)] := by
  intro before
  refine (call_ifEnds seen act patience before).mono ?_
  rintro result after ⟨-, spent⟩
  exact ⟨_, spent, rfl⟩

theorem Spends.bind {act : Action (Metered σ) α} {next : α → Action (Metered σ) β}
    {pays : Except Error β → List Expense → Prop}
    {begun : Except Error α → List Expense → Prop} (start : Spends patience act begun)
    (stop : ∀ error expenses, begun (.error error) expenses → pays (.error error) expenses)
    (rest : ∀ answer earlier, begun (.ok answer) earlier →
      Spends patience (next answer) fun result later => pays result (earlier ++ later)) :
    Spends patience (act >>= next) pays := by
  intro before
  refine ifEnds_bind (start before) ?_ ?_
  · rintro error after ⟨expenses, spent, paid⟩
    exact ⟨expenses, spent, stop error expenses paid⟩
  · rintro answer between ⟨earlier, spent, paid⟩
    refine (rest answer earlier paid between).mono ?_
    rintro result after ⟨later, more, whole⟩
    exact ⟨earlier ++ later, by rw [more, spent, List.append_assoc], whole⟩

/-- Notices cost nothing. -/
theorem spends_note_then [Host σ] [Transport σ] {notice : BusKind → Notice}
    {next : Action (Metered σ) α} (rest : Spends patience next pays) :
    Spends patience (Transport.note notice >>= fun _ => next) pays :=
  fun before => rest (Host.record (notice (Transport.kind before)) before)

theorem Spends.onFailure_note [Host σ] [Transport σ] {act : Action (Metered σ) α}
    (start : Spends patience act pays) (notice : BusKind → Notice) :
    Spends patience (act.onFailure fun _ => Transport.note notice) pays := by
  intro before
  have ends := start before
  unfold Action.onFailure
  rw [bind_apply]
  unfold Action.attempt
  generalize act patience before = outcome at ends
  cases outcome with
  | done answer after => exact ends
  | failed error after => exact ends
  | waiting => exact True.intro

theorem spends_pause [Host σ] (milliseconds : Nat) (positive : milliseconds ≠ 0) :
    Spends patience (Host.pause milliseconds : Action (Metered σ) Unit) fun result expenses =>
      result = .ok () ∧ expenses = [.pause milliseconds] := by
  intro before
  unfold Host.pause
  rw [if_neg positive]
  exact ⟨_, rfl, rfl, rfl⟩

end Rules

end Metered

end NfcLink
