import NfcLink.Proofs.Link.Observed

/-!
# Turns

Two ends that share one link speak by turns. `Alternates` says of calls that they read and
write alternately, and whose turn it is before and after them; `WritesFollowReads` says
only that no write comes without a read right before it.
-/
namespace NfcLink

/-- What an end does next on its link. -/
inductive Turn where
  | hear
  | speak
  deriving DecidableEq, Repr

/-- Reads and writes take turns, from one turn to another. -/
inductive Alternates : Turn → List LinkCall → Turn → Prop where
  | still (turn : Turn) : Alternates turn [] turn
  | heard {calls : List LinkCall} {last : Turn} (result : Except Error Bytes)
      (rest : Alternates .speak calls last) : Alternates .hear (.read result :: calls) last
  | spoke {calls : List LinkCall} {last : Turn} (header body : Bytes) (result : Except Error Unit)
      (rest : Alternates .hear calls last) :
    Alternates .speak (.written header body result :: calls) last

/-- After some earlier calls, each write comes right after a read. -/
def WritesFollowReads (before calls : List LinkCall) : Prop :=
  ∀ earlier header body result later, calls = earlier ++ .written header body result :: later →
    ∃ heard, (before ++ earlier).getLast? = some (.read heard)

/-- Some write comes right after a write. -/
def speaksTwice : List LinkCall → Bool
  | .written _ _ _ :: .written _ _ _ :: _ => true
  | _ :: later => speaksTwice later
  | [] => false

namespace Alternates

variable {first middle last : Turn} {calls earlier later : List LinkCall}

theorem append (start : Alternates first earlier middle) (rest : Alternates middle later last) :
    Alternates first (earlier ++ later) last := by
  induction start with
  | still turn => exact rest
  | heard result _ ih => exact .heard result (ih rest)
  | spoke header body result _ ih => exact .spoke header body result (ih rest)

theorem read (result : Except Error Bytes) : Alternates .hear [.read result] .speak :=
  .heard result (.still .speak)

theorem written (header body : Bytes) (result : Except Error Unit) :
    Alternates .speak [.written header body result] .hear :=
  .spoke header body result (.still .hear)

theorem split (alternates : Alternates first (earlier ++ later) last) :
    ∃ middle, Alternates first earlier middle ∧ Alternates middle later last := by
  induction earlier generalizing first with
  | nil => exact ⟨first, .still first, alternates⟩
  | cons call earlier ih =>
    cases alternates with
    | heard result rest =>
      obtain ⟨middle, start, rest⟩ := ih rest
      exact ⟨middle, .heard result start, rest⟩
    | spoke header body result rest =>
      obtain ⟨middle, start, rest⟩ := ih rest
      exact ⟨middle, .spoke header body result start, rest⟩

/-- Where it has become our turn, we have just read. -/
theorem read_last (alternates : Alternates first calls .speak) :
    (first = .speak ∧ calls = []) ∨ ∃ heard, calls.getLast? = some (.read heard) := by
  rcases List.eq_nil_or_concat calls with rfl | ⟨earlier, call, rfl⟩
  · cases alternates
    exact .inl ⟨rfl, rfl⟩
  · rw [List.concat_eq_append] at alternates ⊢
    obtain ⟨middle, -, final⟩ := alternates.split
    right
    cases final with
    | heard result rest => exact ⟨result, List.getLast?_concat⟩
    | spoke header body result rest => cases rest

theorem writesFollowReads {before : List LinkCall} (alternates : Alternates first calls last)
    (heard : first = .speak → ∃ heard, before.getLast? = some (.read heard)) :
    WritesFollowReads before calls := by
  rintro earlier header body result later rfl
  obtain ⟨middle, start, rest⟩ := alternates.split
  cases rest with
  | spoke =>
    rcases start.read_last with ⟨speaks, rfl⟩ | ⟨found, reads⟩
    · rw [List.append_nil]
      exact heard speaks
    · refine ⟨found, ?_⟩
      rw [List.getLast?_append, reads]
      rfl

end Alternates

namespace WritesFollowReads

variable {before calls more : List LinkCall}

theorem append (start : WritesFollowReads before calls)
    (rest : WritesFollowReads (before ++ calls) more) :
    WritesFollowReads before (calls ++ more) := by
  intro earlier header body result later whole
  rcases List.append_eq_append_iff.mp whole with ⟨middle, rfl, within⟩ | ⟨middle, rfl, within⟩
  · rw [← List.append_assoc]
    exact rest middle header body result later within
  · cases middle with
    | nil =>
      simpa using rest [] header body result later within.symm
    | cons call middle =>
      obtain ⟨rfl, rfl⟩ := List.cons.inj within
      exact start earlier header body result middle rfl

theorem not_speaksTwice (follows : WritesFollowReads before calls) : speaksTwice calls = false := by
  induction calls using speaksTwice.induct generalizing before with
  | case1 header body result header' body' result' later =>
    obtain ⟨heard, impossible⟩ := follows [_] header' body' result' later rfl
    rw [List.getLast?_concat] at impossible
    cases impossible
  | case2 call later other ih =>
    have rest : WritesFollowReads (before ++ [call]) later := by
      intro earlier header body result more split
      rw [List.append_assoc]
      exact follows (call :: earlier) header body result more (congrArg (call :: ·) split)
    simpa only [speaksTwice] using ih rest
  | case3 => rfl

end WritesFollowReads

end NfcLink
