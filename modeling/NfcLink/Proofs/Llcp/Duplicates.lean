import NfcLink.Proofs.Llcp.Ledger

/-!
# Messages that come twice

What successful receptions answer are the fields of information PDUs from the link, each
PDU at most once and in the order in which they came. Their numbers are only sent back,
not compared with anything: a PDU that the peer repeats is one more PDU to answer.
-/
namespace NfcLink

open NfcLink.Action Outcome

/-- No reception answers an information PDU whose N(S) is that of the one answered by the last
successful reception on the same connection. -/
def NumbersAnsweredOnce {σ : Type} (history : List (Step (Observed σ))) : Prop :=
  ∀ earlier previous between repeated later,
    history = earlier ++ previous :: (between ++ repeated :: later) →
    previous.answer.isSome = true →
    (∀ step ∈ between, step.operation.transfers = true ∧ step.answer = none) →
    ∀ header again, firstHeader .information (heardIn previous.calls) = some header →
      firstHeader .information (heardIn repeated.calls) = some again → again.ns = header.ns →
      repeated.answer = none

/-- The information fields of the PDUs that have come, in order. -/
def fieldsOf (pdus : List Bytes) : List Bytes :=
  (pdus.filter (PduHeader.isOf .information)).map (List.drop 3)

theorem fieldsOf_append (earlier later : List Bytes) :
    fieldsOf (earlier ++ later) = fieldsOf earlier ++ fieldsOf later := by
  simp only [fieldsOf, List.filter_append, List.map_append]

theorem mem_fieldsOf_of_first {pdus : List Bytes} {pdu : Bytes}
    (first : firstOf .information pdus = some pdu) : pdu.drop 3 ∈ fieldsOf pdus := by
  have information := PduHeader.isOf_iff.mpr (typeOf_firstOf first)
  exact List.mem_map_of_mem (List.mem_filter.mpr ⟨List.mem_of_find?_eq_some first, information⟩)

/-- A reception that takes an information PDU and gets its acknowledgement out answers the field,
whatever the numbers. -/
theorem Performs.receive_answers {before after : Connection} {calls : List LinkCall}
    {result : Except Error (Option Bytes)} (performs : Performs .receive before calls result after)
    {pdu : Bytes} (first : firstOf .information (heardIn calls) = some pdu)
    (long : 3 ≤ pdu.length)
    (sent : ∀ header body error, LinkCall.written header body (.error error) ∉ calls) :
    result = .ok (some (pdu.drop 3)) := by
  cases performs with
  | refused needed missing => cases first
  -- The PDU was taken, so the reception can only have failed on a header that is cut short.
  | unreceived standing hears =>
    exact absurd (hears.takes_of_error first) (PduHeader.split_of_long long)
  | unacknowledged standing hears error =>
    exact absurd (List.mem_append_right _ List.mem_cons_self) (sent _ [] error)
  | received standing hears =>
    obtain ⟨found, same, -, behind, -⟩ := hears.numbered
    rw [heardIn_append_written, same] at first
    cases first
    rw [behind]

section Runs

variable {σ : Type} [Host σ] [PeerLink σ] {first last : Endpoint (Observed σ)}
variable {history : List (Step (Observed σ))}

theorem Step.answer_sublist {operation : Operation} {before after : Endpoint (Observed σ)}
    {patience : Nat} {result : Except Error (Option Bytes)}
    (ended : (operation.perform patience before).ended = some (result, after)) :
    let step : Step (Observed σ) := ⟨operation, before, result, after⟩
    ([step].filterMap Step.answer).Sublist (fieldsOf (heardIn step.calls)) := by
  intro step
  obtain ⟨-, performs⟩ := Step.observed ended
  cases result with
  | error error => exact List.nil_sublist _
  | ok answer =>
    cases answer with
    | none => exact List.nil_sublist _
    | some field =>
      obtain ⟨pdu, first, -, rfl⟩ := performs.answers_field rfl
      exact List.singleton_sublist.mpr (mem_fieldsOf_of_first first)

/-- What is answered over a run are fields of information PDUs that have come, each of these at most
once and in order; and a reception that takes such a PDU and gets its acknowledgement out answers
it, also when its number is the one answered last. -/
theorem Run.answers_follow_arrivals {link : σ} {settings : LinkSettings}
    (run : Run { link := { inner := link }, settings } history last) :
    (history.filterMap Step.answer).Sublist (fieldsOf (heardIn last.link.calls)) ∧
    ∀ step ∈ history, step.operation = .receive → ∀ pdu,
      firstOf .information (heardIn step.calls) = some pdu → 3 ≤ pdu.length →
      (∀ header body error, .written header body (.error error) ∉ step.calls) →
      step.answer = some (pdu.drop 3) := by
  induction run with
  | start => exact ⟨List.nil_sublist _, by simp⟩
  | @step history before after operation patience result run ended ih =>
    obtain ⟨ordered, answered⟩ := ih
    obtain ⟨seen, performs⟩ := Step.observed ended
    constructor
    · rw [seen, heardIn_append, fieldsOf_append, List.filterMap_append]
      exact ordered.append (Step.answer_sublist ended)
    · intro step member receives pdu first long sent
      rcases List.mem_append.mp member with member | member
      · exact answered step member receives pdu first long sent
      · obtain rfl := List.mem_singleton.mp member
        obtain rfl : operation = .receive := receives
        have succeeds := performs.receive_answers first long sent
        rw [Step.answer, succeeds]

end Runs

/-! ### A peer that repeats itself -/

/-- Accepts a connection and sends the same information PDU twice. -/
def repeatingPeer : Observed (Bench PeerScript) :=
  let information : Bytes := [0x83, 0x04, 0x00, 0x61]
  { inner :=
      { device := { inbound := [[0x00, 0x00], [0x81, 0x84], information, information].map .ok } } }

theorem run_with_repeatingPeer :
    ∃ opening former latter last, Run { link := repeatingPeer } [opening, former, latter] last ∧
      opening.answer = none ∧ former.answer = some [0x61] ∧ latter.answer = some [0x61] ∧
      firstHeader .information (heardIn former.calls) =
        some ⟨0x20, .information, 0x04, some (0, 0)⟩ ∧
      firstHeader .information (heardIn latter.calls) =
        some ⟨0x20, .information, 0x04, some (0, 0)⟩ := by
  have runs : (runOf 9 { link := repeatingPeer } [.connect 1000, .receive, .receive]).map
      (fun (history, _) => history.map fun step =>
        (step.answer, firstHeader .information (heardIn step.calls))) =
      some [(none, none), (some [0x61], some ⟨0x20, .information, 0x04, some (0, 0)⟩),
        (some [0x61], some ⟨0x20, .information, 0x04, some (0, 0)⟩)] := by
    decide +kernel
  obtain ⟨⟨history, last⟩, found, summary⟩ := Option.map_eq_some_iff.mp runs
  simp only [List.map_eq_cons_iff, List.map_eq_nil_iff, Prod.mk.injEq] at summary
  obtain ⟨opening, _, rfl, ⟨silent, -⟩, former, _, rfl, ⟨answered, header⟩, latter, _, rfl,
    ⟨again, same⟩, rfl⟩ := summary
  exact ⟨opening, former, latter, last, (runOf_sound found).1, silent, answered, again, header,
    same⟩

/-- A repeated PDU is answered again, with the number of the one answered before it. -/
theorem numbers_answered_twice :
    ¬∀ (history : List (Step (Observed (Bench PeerScript)))) (last),
      Run { link := repeatingPeer } history last → NumbersAnsweredOnce history := by
  intro once
  -- The former reception is the last successful one before the latter, with nothing in between.
  obtain ⟨opening, former, latter, last, run, -, answered, again, header, same⟩ :=
    run_with_repeatingPeer
  have unanswered : latter.answer = none :=
    once _ last run [opening] former [] latter [] rfl (by rw [answered]; rfl) (by simp) _ _ header
      same rfl
  rw [again] at unanswered
  cases unanswered

theorem repeatingPeer_answers_follow_arrivals :
    ∃ history last, Run { link := repeatingPeer } history last ∧
      history.filterMap Step.answer = [[0x61], [0x61]] ∧
      [[0x61], [0x61]].Sublist (fieldsOf (heardIn last.link.calls)) := by
  obtain ⟨opening, former, latter, last, run, silent, answered, again, -, -⟩ :=
    run_with_repeatingPeer
  have answers : [opening, former, latter].filterMap Step.answer = [[0x61], [0x61]] := by
    simp only [List.filterMap_cons, silent, answered, again, List.filterMap_nil]
  refine ⟨_, last, run, answers, ?_⟩
  rw [← answers]
  exact (Run.answers_follow_arrivals run).1

end NfcLink
