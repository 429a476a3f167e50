import NfcLink.Proofs.Link.Played
import NfcLink.Proofs.Llcp.Correspondence

/-!
# Operations come to an end

A link whose calls all end and that has only so many frames to hand over does not keep an
operation waiting for ever: a wait reads one frame in every round and answers nothing but
SYMMs, so an observer who stays for more rounds than there are frames sees its end.
-/
namespace NfcLink

open NfcLink.Action Outcome

/-- A link whose calls all end, with at most so many frames to come. -/
structure Exhaustible (σ : Type) [Host σ] [PeerLink σ] where
  within : Nat → σ → Prop
  noted : ∀ {count state}, within count state → ∀ notice, within count (Host.record notice state)
  looked : ∀ {count state}, within count state → within count (Host.now state).2
  activated : ∀ {count state}, within count state → ∀ timeoutMs patience,
    ((PeerLink.activate timeoutMs : Action σ Unit) patience state).Ends fun _ after =>
      within count after
  read : ∀ {count state}, within count state → ∀ patience,
    ((PeerLink.read : Action σ Bytes) patience state).Ends fun result after =>
      ∃ left, within left after ∧ left ≤ count ∧ (result.isOk = true → left < count)
  written : ∀ {count state}, within count state → ∀ header body patience,
    ((PeerLink.write header body : Action σ Unit) patience state).Ends fun _ after =>
      within count after

namespace Exhaustible

variable {σ : Type} [Host σ] [PeerLink σ] (link : Exhaustible σ)

/-- Fewer frames than this are to come. -/
def Fewer (bound : Nat) (endpoint : Endpoint σ) : Prop :=
  ∃ count, count < bound ∧ link.within count endpoint.link

variable {link} {patience bound : Nat}

theorem Fewer.mono {more : Nat} {endpoint : Endpoint σ} (fewer : link.Fewer bound endpoint)
    (le : bound ≤ more) : link.Fewer more endpoint := by
  obtain ⟨count, less, within⟩ := fewer
  exact ⟨count, Nat.lt_of_lt_of_le less le, within⟩

/-! ### Steps of an endpoint -/

theorem note_stays (notice : Notice) :
    Stays (link.Fewer bound) patience (Host.note notice) := by
  rintro endpoint ⟨count, less, within⟩
  exact ⟨count, less, link.noted within notice⟩

theorem clock_stays : Stays (link.Fewer bound) patience Host.clock := by
  rintro endpoint ⟨count, less, within⟩
  exact ⟨count, less, link.looked within⟩

theorem expired_stays (deadline : Deadline) :
    Stays (link.Fewer bound) patience deadline.expired :=
  Deadline.expired_stays clock_stays deadline

theorem activate_stays (timeoutMs : Nat) :
    Stays (link.Fewer bound) patience
      ((PeerLink.activate timeoutMs : Action σ Unit).on Endpoint.linkPart) := by
  rintro endpoint ⟨count, less, within⟩
  apply ends_on
  apply (link.activated within timeoutMs patience).mono
  intro result after within
  exact ⟨count, less, within⟩

theorem write_stays (header body : Bytes) :
    Stays (link.Fewer bound) patience
      ((PeerLink.write header body : Action σ Unit).on Endpoint.linkPart) := by
  rintro endpoint ⟨count, less, within⟩
  apply ends_on
  apply (link.written within header body patience).mono
  intro result after within
  exact ⟨count, less, within⟩

theorem readPdu_ends {endpoint : Endpoint σ} (fewer : link.Fewer (bound + 1) endpoint) :
    (Endpoint.readPdu patience endpoint).Ends fun result after =>
      link.Fewer (bound + 1) after ∧ (result.isOk = true → link.Fewer bound after) := by
  obtain ⟨count, less, within⟩ := fewer
  apply ends_on
  apply (link.read within patience).mono
  rintro result after ⟨left, within, most, decreases⟩
  refine ⟨⟨left, Nat.lt_of_le_of_lt most less, within⟩, fun succeeds => ⟨left, ?_, within⟩⟩
  exact Nat.lt_of_lt_of_le (decreases succeeds) (Nat.le_of_lt_succ less)

theorem awaitFrom_ends (wanted : List PduType) (deadline : Deadline) {rounds : Nat}
    (absorbed : Nat) (le : rounds ≤ bound) {endpoint : Endpoint σ}
    (fewer : link.Fewer rounds endpoint) :
    (Endpoint.awaitFrom wanted deadline rounds absorbed patience endpoint).Ends fun _ after =>
      link.Fewer bound after := by
  -- Every round takes a frame, so there are rounds left as long as there are frames.
  induction rounds generalizing absorbed endpoint with
  | zero =>
    obtain ⟨count, less, -⟩ := fewer
    exact absurd less (Nat.not_lt_zero count)
  | succ rounds ih =>
    have weaken {after : Endpoint σ} (fewer : link.Fewer (rounds + 1) after) :
        link.Fewer bound after := fewer.mono le
    have less {after : Endpoint σ} (fewer : link.Fewer rounds after) :
        link.Fewer bound after := fewer.mono (Nat.le_of_succ_le le)
    unfold Endpoint.awaitFrom
    apply ends_then (expired_stays deadline endpoint fewer)
    · exact fun _ _ fewer => weaken fewer
    intro passed looked fewer
    split
    · exact (stays_bind (note_stays _) fun _ => stays_fail _) looked (weaken fewer)
    apply ends_then (readPdu_ends fewer)
    · exact fun _ _ holds => weaken holds.1
    rintro pdu read ⟨-, taken⟩
    apply ends_then (stays_ofExcept _ read (taken rfl))
    · exact fun _ _ fewer => less fewer
    intro type typed fewer
    apply ends_then (note_stays _ typed fewer)
    · exact fun _ _ fewer => less fewer
    intro answer noted fewer
    split
    · exact less fewer
    split
    · exact less fewer
    rw [get_bind]
    split
    · exact (stays_bind (note_stays _) fun _ => stays_fail _) noted (less fewer)
    apply ends_then (stays_bind (note_stays _) (fun _ => write_stays _ _) noted fewer)
    · exact fun _ _ fewer => less fewer
    exact fun answer sent fewer => ih (absorbed + 1) (Nat.le_of_succ_le le) fewer

/-- An observer who stays for more rounds than there are frames sees the end of everything. -/
def correspondence (link : Exhaustible σ) (patience : Nat) : Correspondence σ σ where
  relates act _ := Stays (link.Fewer (patience + 1)) (patience + 1) act
  pure := stays_pure
  fail _ := stays_fail _
  bind := stays_bind
  attempt := stays_attempt
  onFailure := stays_onFailure
  noted := note_stays
  looked := clock_stays
  current _ fewer := fewer
  updated _ _ fewer := fewer
  settings rest endpoint fewer := rest endpoint.settings endpoint fewer
  activated := activate_stays
  read _ fewer := (readPdu_ends fewer).mono fun _ _ holds => holds.1
  written := write_stays
  waited wanted deadline _ fewer :=
    awaitFrom_ends wanted deadline 0 (Nat.le_refl (patience + 1)) fewer

theorem perform_stays (operation : Operation) :
    Stays (link.Fewer (patience + 1)) (patience + 1) operation.perform :=
  (link.correspondence patience).perform operation

/-- So it sees the end of every run. -/
theorem runOf_ends {first : Endpoint σ} (fewer : link.Fewer (patience + 1) first)
    (operations : List Operation) :
    ∃ history last, runOf (patience + 1) first operations = some (history, last) := by
  have goes (history : List (Step σ)) : ∃ found,
      operations.foldlM (continueRun (patience + 1)) (history, first) = some found := by
    induction operations generalizing history first with
    | nil => exact ⟨_, rfl⟩
    | cons operation later ih =>
      obtain ⟨result, after, ended, fewer⟩ :=
        (ends_iff _ _).mp (perform_stays operation first fewer)
      rw [List.foldlM_cons, continueRun, ended]
      exact ih fewer _
  obtain ⟨⟨history, last⟩, found⟩ := goes []
  exact ⟨history, last, found⟩

end Exhaustible

namespace PeerScript

section Lengths

variable {script after : PeerScript}

theorem inbound_of_activate {timeoutMs : Nat} {result : Except Error Unit}
    (does : script.activate timeoutMs = (result, after)) : after.inbound = script.inbound := by
  unfold PeerScript.activate at does
  split at does <;> cases does <;> rfl

theorem inbound_of_write {header body : Bytes} {result : Except Error Unit}
    (does : script.write header body = (result, after)) : after.inbound = script.inbound := by
  unfold PeerScript.write at does
  split at does <;> cases does <;> rfl

theorem length_of_read {result : Except Error Bytes} (does : script.read = (result, after)) :
    after.inbound.length ≤ script.inbound.length ∧
      (result.isOk = true → after.inbound.length < script.inbound.length) := by
  unfold PeerScript.read at does
  split at does
  case h_1 entry inbound found =>
    cases does
    rw [found]
    exact ⟨Nat.le_succ _, fun _ => Nat.lt_succ_self _⟩
  case h_2 =>
    cases does
    exact ⟨Nat.le_refl _, nofun⟩

end Lengths

/-- A script comes to an end, whatever it holds. -/
def exhaustible : Exhaustible (Observed (Bench PeerScript)) where
  within count peer := peer.inner.device.inbound.length ≤ count
  noted within _ := within
  looked within := within
  activated within _ _ := Observed.call_step.mono fun _ _ ⟨does, _⟩ => by
    rw [inbound_of_activate does]
    exact within
  read within _ := Observed.call_step.mono fun _ after ⟨does, _⟩ =>
    have ⟨most, decreases⟩ := length_of_read does
    ⟨after.inner.device.inbound.length, Nat.le_refl _, Nat.le_trans most within,
      fun succeeds => Nat.lt_of_lt_of_le (decreases succeeds) within⟩
  written within _ _ _ := Observed.call_step.mono fun _ _ ⟨does, _⟩ => by
    rw [inbound_of_write does]
    exact within

/-- Every run on a script ends for an observer who stays for more rounds than it has entries. -/
theorem runOf_ends {first : Endpoint (Observed (Bench PeerScript))} {patience : Nat}
    (enough : first.link.inner.device.inbound.length ≤ patience) (operations : List Operation) :
    ∃ history last, runOf (patience + 1) first operations = some (history, last) := by
  have fewer : exhaustible.Fewer (patience + 1) first :=
    ⟨_, Nat.lt_succ_of_le enough, Nat.le_refl _⟩
  exact Exhaustible.runOf_ends fewer operations

end PeerScript

end NfcLink
