import NfcLink.Proofs.Link.Observed
import NfcLink.Proofs.Llcp.Correspondence

/-!
# One link in the place of another

A link refines another one if it answers every call as the other did, as long as the calls to
come are known to it. An endpoint is written against links in general, so whatever it does
on the one it does on the other: `Mirrors` says so of an action, and has a rule for each way
of putting actions together.
-/
namespace NfcLink

open NfcLink.Action Outcome

/-- A link of type `τ` that does what one of type `σ` did. -/
structure Refinement (σ τ : Type) [Host σ] [PeerLink σ] [Host τ] [PeerLink τ] where
  recording : Recording σ
  /-- With these calls to come, the second link stands for the first. -/
  alike : (ahead : List LinkCall) → σ → τ → Prop
  noted : ∀ {ahead first second}, alike ahead first second → ∀ notice,
    alike ahead (Host.record notice first) (Host.record notice second)
  looked : ∀ {ahead first second}, alike ahead first second →
    (Host.now second).1 = (Host.now first).1 ∧
      alike ahead (Host.now first).2 (Host.now second).2
  activated : ∀ timeoutMs patience first,
    ((PeerLink.activate timeoutMs : Action σ Unit) (patience + 1) first).IfEnds
      fun result after => ∀ ahead second,
        alike (.activated timeoutMs result :: ahead) first second →
        ∃ last, ((PeerLink.activate timeoutMs : Action τ Unit) (patience + 1) second).ended =
          some (result, last) ∧ alike ahead after last
  read : ∀ patience first,
    ((PeerLink.read : Action σ Bytes) (patience + 1) first).IfEnds
      fun result after => ∀ ahead second, alike (.read result :: ahead) first second →
        ∃ last, ((PeerLink.read : Action τ Bytes) (patience + 1) second).ended =
          some (result, last) ∧ alike ahead after last
  written : ∀ header body patience first,
    ((PeerLink.write header body : Action σ Unit) (patience + 1) first).IfEnds
      fun result after => ∀ ahead second,
        alike (.written header body result :: ahead) first second →
        ∃ last, ((PeerLink.write header body : Action τ Unit) (patience + 1) second).ended =
          some (result, last) ∧ alike ahead after last

namespace Refinement

variable {σ τ α β : Type} [Host σ] [PeerLink σ] [Host τ] [PeerLink τ]
variable (refinement : Refinement σ τ)

/-- Endpoints that differ in their links at most, and these stand for one another. -/
structure Alike (ahead : List LinkCall) (first : Endpoint σ) (second : Endpoint τ) : Prop where
  link : refinement.alike ahead first.link second.link
  settings : second.settings = first.settings
  connection : second.connection = first.connection

/-- If the first action ends, the second one ends with the same result on any endpoint that is alike
as far as the calls of the first go. -/
def Mirrors (patience : Nat) (act : Action (Endpoint σ) α) (image : Action (Endpoint τ) α) : Prop :=
  ∀ first, (act (patience + 1) first).IfEnds fun result after =>
    ∃ calls, refinement.recording.spans first.link calls after.link ∧
      ∀ ahead second, refinement.Alike (calls ++ ahead) first second →
        ∃ last, (image (patience + 1) second).ended = some (result, last) ∧
          refinement.Alike ahead after last

variable {refinement} {patience : Nat}

/-! ### Rules -/

theorem mirrors_pure (answer : α) :
    refinement.Mirrors patience (pure answer) (pure answer) :=
  fun first => ⟨[], refinement.recording.still first.link, fun _ second alike =>
    ⟨second, rfl, alike⟩⟩

theorem mirrors_fail (error : Error) :
    refinement.Mirrors patience (fail error : Action _ α) (fail error) :=
  fun first => ⟨[], refinement.recording.still first.link, fun _ second alike =>
    ⟨second, rfl, alike⟩⟩

theorem Mirrors.bind {act : Action (Endpoint σ) α} {image : Action (Endpoint τ) α}
    {next : α → Action (Endpoint σ) β} {nextImage : α → Action (Endpoint τ) β}
    (start : refinement.Mirrors patience act image)
    (rest : ∀ answer, refinement.Mirrors patience (next answer) (nextImage answer)) :
    refinement.Mirrors patience (act >>= next) (image >>= nextImage) := by
  intro first
  apply ifEnds_bind (start first)
  · rintro error between ⟨calls, spans, follows⟩
    refine ⟨calls, spans, fun ahead second alike => ?_⟩
    obtain ⟨last, ended, alike⟩ := follows ahead second alike
    refine ⟨last, ?_, alike⟩
    rw [bind_of_failed (ended_eq_error_iff.mp ended)]
    rfl
  · rintro answer between ⟨calls, spans, follows⟩
    apply IfEnds.mono (rest answer between)
    rintro result after ⟨more, further, continues⟩
    refine ⟨calls ++ more, refinement.recording.append spans further, fun ahead second alike => ?_⟩
    rw [List.append_assoc] at alike
    obtain ⟨middle, ended, alike⟩ := follows (more ++ ahead) second alike
    rw [bind_of_done (ended_eq_ok_iff.mp ended)]
    exact continues ahead middle alike

theorem Mirrors.attempt {act : Action (Endpoint σ) α} {image : Action (Endpoint τ) α}
    (mirrors : refinement.Mirrors patience act image) :
    refinement.Mirrors patience act.attempt image.attempt := by
  intro first
  apply ifEnds_attempt
  apply IfEnds.mono (mirrors first)
  rintro result after ⟨calls, spans, follows⟩
  refine ⟨calls, spans, fun ahead second alike => ?_⟩
  obtain ⟨last, ended, alike⟩ := follows ahead second alike
  exact ⟨last, by rw [attempt_ended, ended]; rfl, alike⟩

theorem Mirrors.onFailure {act : Action (Endpoint σ) α} {image : Action (Endpoint τ) α}
    {react : Error → Action (Endpoint σ) Unit} {reactImage : Error → Action (Endpoint τ) Unit}
    (mirrors : refinement.Mirrors patience act image)
    (reaction : ∀ error, refinement.Mirrors patience (react error) (reactImage error)) :
    refinement.Mirrors patience (act.onFailure react) (image.onFailure reactImage) := by
  unfold Action.onFailure
  apply mirrors.attempt.bind
  intro result
  cases result with
  | ok answer => exact mirrors_pure answer
  | error error => exact (reaction error).bind fun _ => mirrors_fail error

theorem mirrors_settings {next : LinkSettings → Action (Endpoint σ) α}
    {image : LinkSettings → Action (Endpoint τ) α}
    (rest : ∀ settings, refinement.Mirrors patience (next settings) (image settings)) :
    refinement.Mirrors patience (Action.get >>= fun endpoint => next endpoint.settings)
      (Action.get >>= fun endpoint => image endpoint.settings) := by
  intro first
  apply IfEnds.mono (rest first.settings first)
  rintro result after ⟨calls, spans, follows⟩
  refine ⟨calls, spans, fun ahead second alike => ?_⟩
  rw [get_bind, alike.settings]
  exact follows ahead second alike

theorem mirrors_current : refinement.Mirrors patience Endpoint.current Endpoint.current :=
  fun first => ⟨[], refinement.recording.still first.link, fun _ second alike =>
    ⟨second, congrArg (fun connection => some (Except.ok connection, second)) alike.connection,
      alike⟩⟩

theorem mirrors_update (change : Connection → Connection) :
    refinement.Mirrors patience (Endpoint.update change) (Endpoint.update change) :=
  fun first => ⟨[], refinement.recording.still first.link, fun _ _ alike =>
    ⟨_, rfl, alike.link, alike.settings, congrArg change alike.connection⟩⟩

theorem mirrors_note (notice : Notice) :
    refinement.Mirrors patience (Host.note notice) (Host.note notice) :=
  fun first => ⟨[], refinement.recording.noted notice first.link, fun _ _ alike =>
    ⟨_, rfl, refinement.noted alike.link notice, alike.settings, alike.connection⟩⟩

theorem mirrors_clock : refinement.Mirrors patience Host.clock Host.clock := by
  intro first
  refine ⟨[], refinement.recording.looked first.link, fun ahead second alike => ?_⟩
  obtain ⟨same, stays⟩ := refinement.looked alike.link
  exact ⟨_, congrArg (fun instant => some (Except.ok instant, _)) same, stays, alike.settings,
    alike.connection⟩

/-- A call on the link is mirrored by the same call on the other one. -/
theorem mirrors_call {act : Action σ α} {image : Action τ α} {seen : Except Error α → LinkCall}
    (spans : ∀ first, (act (patience + 1) first).IfEnds fun result after =>
      refinement.recording.spans first [seen result] after)
    (follows : ∀ first, (act (patience + 1) first).IfEnds fun result after =>
      ∀ ahead second, refinement.alike (seen result :: ahead) first second →
        ∃ last, (image (patience + 1) second).ended = some (result, last) ∧
          refinement.alike ahead after last) :
    refinement.Mirrors patience (act.on Endpoint.linkPart) (image.on Endpoint.linkPart) := by
  intro first
  apply ifEnds_on
  rw [ifEnds_iff]
  intro result after ended
  refine ⟨[seen result], (ifEnds_iff _ _).mp (spans first.link) result after ended,
    fun ahead second alike => ?_⟩
  obtain ⟨last, same, stays⟩ :=
    (ifEnds_iff _ _).mp (follows first.link) result after ended ahead second.link alike.link
  refine ⟨{ second with link := last }, ?_, stays, alike.settings, alike.connection⟩
  rw [on_ended]
  change ((image (patience + 1) second.link).ended).map _ = _
  rw [same]
  rfl

/-- On either link the steps of an endpoint are the same. -/
def steps (refinement : Refinement σ τ) (patience : Nat) : StepRelation σ τ where
  relates := refinement.Mirrors patience
  pure := mirrors_pure
  fail _ := mirrors_fail _
  bind := Mirrors.bind
  attempt := Mirrors.attempt
  onFailure := Mirrors.onFailure
  noted := mirrors_note
  looked := mirrors_clock
  current := mirrors_current
  updated := mirrors_update
  settings := mirrors_settings
  activated timeoutMs :=
    mirrors_call (refinement.recording.activated timeoutMs _)
      (refinement.activated timeoutMs patience)
  read := mirrors_call (refinement.recording.read _) (refinement.read patience)
  written header body :=
    mirrors_call (refinement.recording.written header body _)
      (refinement.written header body patience)

/-- So whatever an endpoint does is the same on either link. -/
def correspondence (refinement : Refinement σ τ) (patience : Nat) : Correspondence σ τ where
  toStepRelation := refinement.steps patience
  waited wanted deadline :=
    (refinement.steps patience).awaitFrom (fun _ => True.intro)
      (fun notice _ => (mirrors_note notice).bind fun _ => mirrors_fail .timeout) wanted deadline
      (patience + 1) 0

end Refinement

end NfcLink
