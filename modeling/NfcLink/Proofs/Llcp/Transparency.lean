import NfcLink.Proofs.Llcp.Timeouts

/-!
# Runs with more SYMMs

A run whose operations all succeed on a script does the same on every script that has more
SYMMs in it: the two runs stay abreast of each other, operation by operation, where the SYMMs that
a wait may answer are not limited and no operation reaches its deadline.
-/
namespace NfcLink

open NfcLink.Action Outcome PeerScript

/-- A SYMM that a wait takes, and its answer. -/
def symmAnswered (symm : Bytes) : List LinkCall :=
  [.read (.ok symm), .written PduHeader.symm.encode [] (.ok ())]

/-- What a wait does after the last SYMM that it answers. Unless it runs out, it leaves a SYMM
without an answer only if the answer cannot be sent. -/
inductive Concludes (wanted : List PduType) (runsOut : Prop) :
    List LinkCall → Except Error Bytes → Prop where
  | late (reason : runsOut) : Concludes wanted runsOut [] (.error .timeout)
  | unread (error : Error) : Concludes wanted runsOut [.read (.error error)] (.error error)
  | taken {pdu : Bytes} {type : PduType} (typed : PduHeader.typeOf pdu = .ok type)
      (member : type ∈ wanted) : Concludes wanted runsOut [.read (.ok pdu)] (.ok pdu)
  | unexpected {pdu : Bytes} (other : ¬IsSymm pdu) (error : Error) :
    Concludes wanted runsOut [.read (.ok pdu)] (.error error)
  | exhausted {symm : Bytes} (turn : IsSymm symm) (reason : runsOut) :
    Concludes wanted runsOut [.read (.ok symm)] (.error .timeout)
  | unanswered {symm : Bytes} (turn : IsSymm symm) (error : Error) :
    Concludes wanted runsOut
      [.read (.ok symm), .written PduHeader.symm.encode [] (.error error)] (.error error)

/-- SYMMs that are answered one by one, and then the end of the wait. -/
def AnswersEach (wanted : List PduType) (runsOut : Prop) (calls : List LinkCall)
    (result : Except Error Bytes) : Prop :=
  ∃ symms : List Bytes, (∀ symm ∈ symms, IsSymm symm) ∧
    ∃ rest, calls = symms.flatMap symmAnswered ++ rest ∧ Concludes wanted runsOut rest result

theorem Waits.answersEach {wanted : List PduType} {runsOut : Prop} {calls : List LinkCall}
    {result : Except Error Bytes} (waits : Waits wanted calls result)
    (reason : Overran calls result → runsOut) : AnswersEach wanted runsOut calls result := by
  induction waits with
  | expired => exact ⟨[], nofun, _, rfl, .late (reason ⟨rfl, nofun⟩)⟩
  | unread error => exact ⟨[], nofun, _, rfl, .unread error⟩
  | @untyped pdu error typed =>
    have other : ¬IsSymm pdu := fun symm => nomatch typed.symm.trans symm
    exact ⟨[], nofun, _, rfl, .unexpected other error⟩
  | taken typed member => exact ⟨[], nofun, _, rfl, .taken typed member⟩
  | @unexpected pdu type typed unwanted different =>
    have other : ¬IsSymm pdu := fun symm => different (Except.ok.inj (typed.symm.trans symm))
    exact ⟨[], nofun, _, rfl, .unexpected other _⟩
  | exhausted symm other =>
    have overran := reason ⟨rfl, List.forall_mem_cons.mpr ⟨rfl, nofun⟩⟩
    exact ⟨[], nofun, _, rfl, .exhausted symm overran⟩
  | unanswered symm other error => exact ⟨[], nofun, _, rfl, .unanswered symm error⟩
  | @answered symm _ _ turn other waits ih =>
    obtain ⟨symms, absorbed, rest, rfl, concludes⟩ := ih fun ⟨late, succeed⟩ => reason
      ⟨late, List.forall_mem_cons.mpr ⟨rfl, List.forall_mem_cons.mpr ⟨rfl, succeed⟩⟩⟩
    exact ⟨symm :: symms, List.forall_mem_cons.mpr ⟨turn, absorbed⟩, rest, rfl, concludes⟩

section Scripted

variable {before after otherBefore otherAfter : Endpoint (Observed (Bench PeerScript))}
variable {first second last final : Endpoint (Observed (Bench PeerScript))}

/-- What a script has answered to an operation, and what is left of it. -/
theorem Operation.perform_served {operation : Operation} {patience : Nat} {toCome : List Bytes}
    {result : Except Error (Option Bytes)} (serves : before.link.inner.device.Serves toCome)
    (ended : (operation.perform patience before).ended = some (result, after)) :
    ∃ calls left, Served toCome calls left ∧ after.link.inner.device.Serves left ∧
      after.link.inner.device.written = before.link.inner.device.written ++ sentIn calls ∧
      after.link.calls = before.link.calls ++ calls ∧
      Performs operation before.connection calls result after.connection := by
  obtain ⟨calls, ⟨called, played⟩, performs⟩ :=
    (ifEnds_iff _ _).mp (recording.perform_performs operation) result after ended
  obtain ⟨left, served, ends, written⟩ := played.served serves
  exact ⟨calls, left, served, ends, written, called, performs⟩

/-- Two endpoints that differ in SYMMs at most: in those to come and in those that were sent. -/
structure Abreast (one other : Endpoint (Observed (Bench PeerScript))) : Prop where
  connection : other.connection = one.connection
  spoken : other.link.inner.device.written.filter speaks =
    one.link.inner.device.written.filter speaks
  ahead : ∃ script padded, one.link.inner.device.Serves script ∧
    other.link.inner.device.Serves padded ∧ Inserted script padded

theorem Abreast.perform {operation : Operation} {patience otherPatience : Nat}
    {result other : Except Error (Option Bytes)} (abreast : Abreast before otherBefore)
    (ended : (operation.perform patience before).ended = some (result, after))
    (succeeds : result.isOk = true)
    (again : (operation.perform otherPatience otherBefore).ended = some (other, otherAfter))
    (uncapped : otherBefore.settings.maxSymm = none)
    (early : ¬(operation.deadline otherBefore).PassedBy otherAfter.link.inner.clockNs) :
    other = result ∧ Abreast after otherAfter := by
  obtain ⟨connection, spoken, script, padded, serves, servesPadded, inserted⟩ := abreast
  obtain ⟨calls, left, served, standing, written, -, performs⟩ :=
    Operation.perform_served serves ended
  obtain ⟨others, otherLeft, servedAgain, otherStanding, otherWritten, called, performsAgain⟩ :=
    Operation.perform_served servesPadded again
  rw [connection] at performsAgain
  rcases performs.absorbs succeeds served inserted performsAgain servedAgain with
    ⟨late, succeed⟩ | ⟨same, connection, said, inserted⟩
  · -- No call failed, so it is the deadline that the wait has run into.
    have excused := (perform_spends uncapped again).2 late
    exact absurd (excused.passedBy called succeed) early
  · refine ⟨same, connection, ?_, left, otherLeft, standing, otherStanding, inserted⟩
    rw [otherWritten, written, List.filter_append, List.filter_append, spoken]
    exact congrArg (_ ++ ·) said

/-- Two runs of the same operations stay abreast. -/
theorem Abreast.runs {history repeated : List (Step (Observed (Bench PeerScript)))}
    (abreast : Abreast first second) (run : Run first history last)
    (succeed : ∀ step ∈ history, step.result.isOk = true) (again : Run second repeated final)
    (operations : repeated.map Step.operation = history.map Step.operation)
    (uncapped : second.settings.maxSymm = none) (early : ∀ step ∈ repeated, step.InTime) :
    repeated.map Step.result = history.map Step.result ∧ Abreast last final := by
  -- Both runs are taken back by one operation at a time, for the later one starts where the
  -- earlier ones have left the endpoint.
  induction run generalizing repeated final with
  | start =>
    obtain rfl := List.map_eq_nil_iff.mp operations
    rw [again.nothing]
    exact ⟨rfl, abreast⟩
  | @step history before after operation patience result run ended ih =>
    cases again with
    | start => simp at operations
    | @step repeated otherBefore _ otherOperation _ other again endedAgain =>
      rw [List.map_append, List.map_append] at operations
      obtain ⟨earlier, latest⟩ := List.append_inj' operations rfl
      obtain rfl : otherOperation = operation := List.head_eq_of_cons_eq latest
      obtain ⟨results, abreast⟩ := ih
        (fun step member => succeed step (List.mem_append_left _ member)) again earlier
        (fun step member => early step (List.mem_append_left _ member))
      have kept := congrArg LinkSettings.maxSymm (follows_of_run again uncapped).settings
      obtain ⟨rfl, abreast⟩ := abreast.perform ended
        (succeed _ (List.mem_append_right _ (List.mem_singleton_self _))) endedAgain
        (kept.trans uncapped) (early _ (List.mem_append_right _ (List.mem_singleton_self _)))
      refine ⟨?_, abreast⟩
      rw [List.map_append, List.map_append, results]
      rfl

/-- If the operations of a run all succeed on a script, then on every script with more SYMMs in it
they all come to an end. Where the SYMMs that a wait may answer are not limited and no operation
reaches its deadline, they do so with the same results, in the same state of the connection and with
the same PDUs sent. No deadline is reached if every operation has time for a look at the clock with
each frame and for two more. Every wait answers the SYMMs that it takes one by one. -/
theorem Run.same_with_more_symms {script padded : List Bytes} (inserted : Inserted script padded)
    {history : List (Step (Observed (Bench PeerScript)))} (run : Run first history last)
    (succeed : ∀ step ∈ history, step.result.isOk = true)
    (serves : first.link.inner.device.Serves script)
    (servesPadded : second.link.inner.device.Serves padded)
    (connection : second.connection = first.connection)
    (written : second.link.inner.device.written = first.link.inner.device.written)
    (uncapped : second.settings.maxSymm = none)
    {patience : Nat} (enough : padded.length ≤ patience) :
    (∃ repeated final,
      runOf (patience + 1) second (history.map Step.operation) = some (repeated, final) ∧
      ((∀ step ∈ repeated, step.InTime) →
        repeated.map Step.result = history.map Step.result ∧
        final.connection = last.connection ∧
        final.link.inner.device.written.filter speaks =
          last.link.inner.device.written.filter speaks) ∧
      ((∀ step ∈ history, step.operation.HasTimeFor (padded.length + 2) second) →
        ∀ step ∈ repeated, step.InTime)) ∧
    ∀ (wanted : List PduType) (deadline : Deadline) (patience : Nat)
      (before after : Endpoint (Observed (Bench PeerScript))) (result : Except Error Bytes),
      (Endpoint.await wanted deadline patience before).ended = some (result, after) →
      ∃ calls, after.link.calls = before.link.calls ++ calls ∧
        AnswersEach wanted
          (before.settings.maxSymm ≠ none ∨ deadline.PassedBy after.link.inner.clockNs)
          calls result := by
  refine ⟨?_, ?_⟩
  · have few : second.link.inner.device.inbound.length ≤ padded.length :=
      Nat.le_of_eq (by rw [servesPadded.inbound, List.length_map])
    obtain ⟨repeated, final, found⟩ :=
      runOf_ends (Nat.le_trans few enough) (history.map Step.operation)
    obtain ⟨again, operations⟩ := runOf_sound found
    refine ⟨repeated, final, found, fun early => ?_, fun time => ?_⟩
    · have abreast : Abreast first second :=
        ⟨connection, congrArg (List.filter speaks) written, script, padded, serves, servesPadded,
          inserted⟩
      obtain ⟨results, connection, spoken, -⟩ :=
        abreast.runs run succeed again operations uncapped early
      exact ⟨results, connection, spoken⟩
    · apply inTime_of_run again uncapped few
      intro step member
      have among : step.operation ∈ history.map Step.operation :=
        operations ▸ List.mem_map_of_mem member
      obtain ⟨other, member, same⟩ := List.mem_map.mp among
      exact same ▸ time other member
  · intro wanted deadline patience before after result ended
    obtain ⟨calls, called, waits, -⟩ :=
      (ifEnds_iff _ _).mp (Recording.observed.await_reports wanted deadline) result after ended
    refine ⟨calls, called, waits.answersEach fun ⟨late, succeed⟩ => ?_⟩
    by_cases uncapped : before.settings.maxSymm = none
    · exact .inr ((await_excused uncapped ended late).passedBy called succeed)
    · exact .inl uncapped

end Scripted

/-- Four SYMMs more than needed come while an octet is sent over a connection that is then released,
three of them in one wait. Every look at the clock takes a millisecond. -/
theorem Run.same_with_four_more_symms :
    let script : List Bytes :=
      [[0x00, 0x00], [0x81, 0x84], [0x83, 0x44, 0x01], [0x00, 0x00], [0x81, 0xC4, 0x00]]
    let padded : List Bytes :=
      [[0x00, 0x00], [0x00, 0x00], [0x81, 0x84], [0x83, 0x44, 0x01], [0x00, 0x00], [0x00, 0x00],
        [0x00, 0x00], [0x00, 0x00], [0x81, 0xC4, 0x00]]
    let on (frames : List Bytes) : Endpoint (Observed (Bench PeerScript)) :=
      { link := { inner := { device := { inbound := frames.map .ok }, tickNs := 1000000 } } }
    let operations : List Operation := [.connect 1000, .transmit [] [0x78], .release]
    Inserted script padded ∧
      ∃ history last, Run (on script) history last ∧ history.map Step.operation = operations ∧
        (∀ step ∈ history, step.result.isOk = true) ∧
        ∃ repeated final, runOf 10 (on padded) operations = some (repeated, final) ∧
          (∀ step ∈ repeated, step.InTime) ∧
          repeated.map Step.result = [.ok none, .ok none, .ok none] ∧
          final.connection = last.connection ∧
          final.link.inner.device.written.filter speaks =
            last.link.inner.device.written.filter speaks := by
  intro script padded on operations
  have symm : IsSymm [0x00, 0x00] := rfl
  have inserted : Inserted script padded :=
    .next _ (.symm symm (.next _ (.next _ (.symm symm (.symm symm (.symm symm (.next _
      (.next _ .done))))))))
  have serves (frames : List Bytes) : (on frames).link.inner.device.Serves frames := ⟨rfl, rfl, rfl⟩
  have ends : (runOf 10 (on script) operations).map
      (fun (history, _) => history.map Step.result) = some [.ok none, .ok none, .ok none] := by
    decide +kernel
  obtain ⟨⟨history, last⟩, found, ends⟩ := Option.map_eq_some_iff.mp ends
  have results : history.map Step.result = [.ok none, .ok none, .ok none] := ends
  obtain ⟨run, same⟩ := runOf_sound found
  have succeed : ∀ step ∈ history, step.result.isOk = true := by
    intro step member
    have among : step.result ∈ history.map Step.result := List.mem_map_of_mem member
    rw [results] at among
    simp only [List.mem_cons, List.not_mem_nil, or_false, or_self] at among
    rw [among]
    rfl
  obtain ⟨⟨repeated, final, again, agree, inTime⟩, -⟩ :=
    run.same_with_more_symms inserted succeed (serves script) (serves padded) rfl rfl rfl
      (Nat.le_refl 9)
  have early : ∀ step ∈ repeated, step.InTime := by
    have time : ∀ operation ∈ operations, operation.HasTimeFor 11 (on padded) := by
      unfold Operation.HasTimeFor
      decide
    exact inTime fun step member => time _ (same ▸ List.mem_map_of_mem member)
  rw [same] at again
  obtain ⟨equal, connection, spoken⟩ := agree early
  exact ⟨inserted, history, last, run, same, succeed, repeated, final, again, early,
    equal.trans results, connection, spoken⟩

end NfcLink
