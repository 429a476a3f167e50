import NfcLink.Link
import NfcLink.Proofs.Outcome

/-!
# Observed links

An observer between an endpoint and its link sees every call and what came of it, in
order, and changes nothing. A recording says which calls lead from one state of a link
to another; the observer keeps one, and a link without an observer has the one that
tells nothing.
-/
namespace NfcLink

open NfcLink.Action Outcome

/-- A call on a link, with what came of it. -/
inductive LinkCall where
  | activated (timeoutMs : Nat) (result : Except Error Unit)
  | read (result : Except Error Bytes)
  | written (header body : Bytes) (result : Except Error Unit)

instance decidableEqResult {α : Type} [DecidableEq α] : DecidableEq (Except Error α)
  | .ok first, .ok second => decidable_of_iff (first = second) (by simp)
  | .error first, .error second => decidable_of_iff (first = second) (by simp)
  | .ok _, .error _ => isFalse nofun
  | .error _, .ok _ => isFalse nofun

deriving instance DecidableEq for LinkCall

structure Observed (σ : Type) where
  inner : σ
  calls : List LinkCall := []

namespace Observed

variable {σ α : Type}

def innerPart : Part (Observed σ) σ :=
  ⟨Observed.inner, fun inner observed => { observed with inner }⟩

instance [Host σ] : Host (Observed σ) := Host.through innerPart

/-- Hands a call on and keeps what came of it. -/
def call (seen : Except Error α → LinkCall) (act : Action σ α) : Action (Observed σ) α := do
  let result ← (act.on innerPart).attempt
  Action.modify fun observed => { observed with calls := observed.calls ++ [seen result] }
  Action.ofExcept result

instance [PeerLink σ] : PeerLink (Observed σ) where
  activate timeoutMs := call (.activated timeoutMs) (PeerLink.activate timeoutMs)
  read := call .read PeerLink.read
  write header body := call (.written header body) (PeerLink.write header body)

/-- The call ends as it would without an observer, and is the last one seen. -/
theorem call_ended (seen : Except Error α → LinkCall) (act : Action σ α) (patience : Nat)
    (observed : Observed σ) :
    (call seen act patience observed).ended =
      (act patience observed.inner).ended.map fun (result, inner) =>
        (result, ⟨inner, observed.calls ++ [seen result]⟩) := by
  unfold call
  rw [bind_apply]
  simp only [attempt, on, innerPart]
  cases act patience observed.inner with
  | done answer inner => rfl
  | failed error inner => rfl
  | waiting => rfl

theorem call_answers {seen : Except Error α → LinkCall} {act : Action σ α} {patience : Nat}
    {observed : Observed σ} {answer : α} {post : σ → Prop}
    (answers : (act patience observed.inner).Answers answer post) :
    (call seen act patience observed).Answers answer fun after => post after.inner := by
  obtain ⟨inner, done, holds⟩ := answers
  have ended := call_ended seen act patience observed
  rw [done] at ended
  exact ⟨_, ended_eq_ok_iff.mp ended, holds⟩

theorem call_ifEnds (seen : Except Error α → LinkCall) (act : Action σ α) (patience : Nat)
    (observed : Observed σ) :
    (call seen act patience observed).IfEnds fun result after =>
      after.calls = observed.calls ++ [seen result] := by
  rw [ifEnds_iff]
  intro result after ended
  rw [call_ended] at ended
  obtain ⟨⟨found, inner⟩, -, same⟩ := Option.map_eq_some_iff.mp ended
  cases same
  rfl

end Observed

/-- Which calls lead from one state of a link to another. What the host does beside the link makes
no calls. -/
structure Recording (σ : Type) [Host σ] [PeerLink σ] where
  spans : (before : σ) → List LinkCall → (after : σ) → Prop
  still : ∀ state, spans state [] state
  append : ∀ {before between after earlier later}, spans before earlier between →
    spans between later after → spans before (earlier ++ later) after
  noted : ∀ notice state, spans state [] (Host.record notice state)
  looked : ∀ state, spans state [] (Host.now state).2
  activated : ∀ timeoutMs patience state,
    ((PeerLink.activate timeoutMs : Action σ Unit) patience state).IfEnds fun result after =>
      spans state [.activated timeoutMs result] after
  read : ∀ patience state,
    ((PeerLink.read : Action σ Bytes) patience state).IfEnds fun result after =>
      spans state [.read result] after
  written : ∀ header body patience state,
    ((PeerLink.write header body : Action σ Unit) patience state).IfEnds fun result after =>
      spans state [.written header body result] after

namespace Recording

variable {σ : Type} [Host σ] [PeerLink σ]

/-- Nothing is known of the calls. -/
def blind : Recording σ where
  spans _ _ _ := True
  still _ := True.intro
  append _ _ := True.intro
  noted _ _ := True.intro
  looked _ := True.intro
  activated _ _ _ := (ifEnds_iff _ _).mpr fun _ _ _ => True.intro
  read _ _ := (ifEnds_iff _ _).mpr fun _ _ _ => True.intro
  written _ _ _ _ := (ifEnds_iff _ _).mpr fun _ _ _ => True.intro

/-- The calls are those that the observer has seen in between. -/
def observed : Recording (Observed σ) where
  spans before calls after := after.calls = before.calls ++ calls
  still state := (List.append_nil state.calls).symm
  append earlier later := by rw [later, earlier, List.append_assoc]
  noted _ state := (List.append_nil state.calls).symm
  looked state := (List.append_nil state.calls).symm
  activated _ _ _ := Observed.call_ifEnds ..
  read _ _ := Observed.call_ifEnds ..
  written _ _ _ _ := Observed.call_ifEnds ..

end Recording

end NfcLink
