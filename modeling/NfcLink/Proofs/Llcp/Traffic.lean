import NfcLink.Proofs.Llcp.Lifecycle

/-!
# What an observer sees of an operation

From the calls alone an observer can tell which PDU an operation was waiting for and got,
and what it sent. The first PDU of the type that it waits for is the one it takes, for
the wait lets nothing but SYMM pass before it.
-/
namespace NfcLink

/-! ### PDUs in calls -/

/-- The PDUs that the calls took from the link. -/
def heardIn : List LinkCall → List Bytes
  | [] => []
  | .read (.ok pdu) :: later => pdu :: heardIn later
  | _ :: later => heardIn later

/-- The PDUs that were taken after the first one was sent. -/
def repliesIn : List LinkCall → List Bytes
  | [] => []
  | .written _ _ _ :: later => heardIn later
  | _ :: later => repliesIn later

/-- Some call sent this PDU, or tried to. -/
def Said (calls : List LinkCall) (header body : Bytes) : Prop :=
  ∃ result, .written header body result ∈ calls

def PduHeader.isOf (type : PduType) (pdu : Bytes) : Bool :=
  match PduHeader.typeOf pdu with
  | .ok found => decide (found = type)
  | .error _ => false

/-- The first of these PDUs that has the type. -/
def firstOf (type : PduType) (pdus : List Bytes) : Option Bytes :=
  pdus.find? (PduHeader.isOf type)

theorem PduHeader.isOf_of_typeOf {type found : PduType} {pdu : Bytes}
    (typed : PduHeader.typeOf pdu = .ok found) :
    PduHeader.isOf type pdu = decide (found = type) := by
  rw [PduHeader.isOf, typed]

theorem PduHeader.isOf_of_error {type : PduType} {pdu : Bytes} {error : Error}
    (typed : PduHeader.typeOf pdu = .error error) : PduHeader.isOf type pdu = false := by
  rw [PduHeader.isOf, typed]

theorem PduHeader.isOf_iff {type : PduType} {pdu : Bytes} :
    PduHeader.isOf type pdu = true ↔ PduHeader.typeOf pdu = .ok type := by
  unfold PduHeader.isOf
  cases PduHeader.typeOf pdu with
  | ok found => simp
  | error error => simp

theorem typeOf_firstOf {type : PduType} {pdus : List Bytes} {pdu : Bytes}
    (first : firstOf type pdus = some pdu) : PduHeader.typeOf pdu = .ok type :=
  PduHeader.isOf_iff.mp (List.find?_some first)

theorem firstOf_cons_same {type : PduType} {pdu : Bytes} {pdus : List Bytes}
    (typed : PduHeader.typeOf pdu = .ok type) : firstOf type (pdu :: pdus) = some pdu :=
  List.find?_cons_of_pos (PduHeader.isOf_iff.mpr typed)

theorem firstOf_cons_other {type found : PduType} {pdu : Bytes} {pdus : List Bytes}
    (typed : PduHeader.typeOf pdu = .ok found) (other : found ≠ type) :
    firstOf type (pdu :: pdus) = firstOf type pdus := by
  apply List.find?_cons_of_neg
  rw [PduHeader.isOf_of_typeOf typed]
  simp [other]

theorem firstOf_cons_untyped {type : PduType} {pdu : Bytes} {pdus : List Bytes} {error : Error}
    (typed : PduHeader.typeOf pdu = .error error) :
    firstOf type (pdu :: pdus) = firstOf type pdus := by
  apply List.find?_cons_of_neg
  rw [PduHeader.isOf_of_error typed]
  simp

theorem heardIn_append (earlier later : List LinkCall) :
    heardIn (earlier ++ later) = heardIn earlier ++ heardIn later := by
  induction earlier using heardIn.induct with
  | case1 => rfl
  | case2 pdu rest ih => simp only [List.cons_append, heardIn, ih]
  | case3 call rest other ih => simp only [List.cons_append, heardIn, ih]

@[simp] theorem heardIn_append_written (calls : List LinkCall) (header body : Bytes)
    (result : Except Error Unit) :
    heardIn (calls ++ [.written header body result]) = heardIn calls := by
  rw [heardIn_append]
  exact List.append_nil _

@[simp] theorem repliesIn_append_written (calls : List LinkCall) (header body : Bytes)
    (result : Except Error Unit) :
    repliesIn (calls ++ [.written header body result]) = repliesIn calls := by
  induction calls using repliesIn.induct with
  | case1 => rfl
  | case2 header body result later =>
    simp only [List.cons_append, repliesIn, heardIn_append_written]
  | case3 call rest other ih => simp only [List.cons_append, repliesIn, ih]

@[simp] theorem said_append_iff (earlier later : List LinkCall) (header body : Bytes) :
    Said (earlier ++ later) header body ↔ Said earlier header body ∨ Said later header body := by
  simp only [Said, List.mem_append, exists_or]

@[simp] theorem said_written_iff (sent field : Bytes) (result : Except Error Unit)
    (header body : Bytes) :
    Said [.written sent field result] header body ↔ header = sent ∧ body = field := by
  simp [Said]

/-! ### What a wait takes and sends -/

theorem Waits.takes {type : PduType} {calls : List LinkCall} {result : Except Error Bytes}
    (waits : Waits [type] calls result) : firstOf type (heardIn calls) = result.toOption := by
  -- What a wait passes over is SYMM, which is not of the type that it waits for.
  induction waits with
  | expired | unread => rfl
  | untyped typed => exact firstOf_cons_untyped typed
  | taken typed member => exact firstOf_cons_same (List.mem_singleton.mp member ▸ typed)
  | unexpected typed other different =>
    exact firstOf_cons_other typed fun same => other (List.mem_singleton.mpr same)
  | exhausted symm other | unanswered symm other =>
    exact firstOf_cons_other symm fun same => other (List.mem_singleton.mpr same)
  | answered symm other rest ih =>
    rw [← ih]
    exact firstOf_cons_other symm fun same => other (List.mem_singleton.mpr same)

theorem Waits.said {wanted : List PduType} {calls : List LinkCall} {result : Except Error Bytes}
    (waits : Waits wanted calls result) {header body : Bytes} (said : Said calls header body) :
    header ++ body = [0x00, 0x00] := by
  induction waits with
  | expired | unread | untyped | taken | unexpected | exhausted => simp [Said] at said
  | unanswered symm other error =>
    obtain ⟨rfl, rfl⟩ : header = PduHeader.symm.encode ∧ body = [] := by simpa [Said] using said
    rfl
  | answered symm other rest ih =>
    obtain ⟨result, member⟩ := said
    rcases List.mem_cons.mp member with impossible | member
    · cases impossible
    rcases List.mem_cons.mp member with same | member
    · cases same
      rfl
    · exact ih ⟨result, member⟩

theorem TakesTurn.said {calls : List LinkCall} {result : Except Error Unit}
    (turn : TakesTurn calls result) (header body : Bytes) : ¬Said calls header body := by
  cases turn <;> simp [Said]

theorem TakesTurn.repliesIn_append {calls : List LinkCall} {result : Except Error Unit}
    (turn : TakesTurn calls result) (later : List LinkCall) :
    repliesIn (calls ++ later) = repliesIn later := by
  cases turn <;> rfl

section Asking

variable {header body : Bytes} {reply : PduType} {calls : List LinkCall}
variable {result : Except Error Bytes}

theorem Asks.takes (asks : Asks header body reply calls result) :
    firstOf reply (repliesIn calls) = result.toOption := by
  cases asks with
  | unsent error => rfl
  | sent waits => exact waits.takes

theorem Asks.said (asks : Asks header body reply calls result) {sent field : Bytes}
    (said : Said calls sent field) :
    (sent = header ∧ field = body) ∨ sent ++ field = [0x00, 0x00] := by
  cases asks with
  | unsent error => exact .inl ((said_written_iff ..).mp said)
  | sent waits =>
    rcases (said_append_iff [_] ..).mp said with said | said
    · exact .inl ((said_written_iff ..).mp said)
    · exact .inr (waits.said said)

theorem AsksInTurn.takes (asks : AsksInTurn header body reply calls result) :
    firstOf reply (repliesIn calls) = result.toOption := by
  cases asks with
  | noTurn turn =>
    have silent := turn.repliesIn_append []
    rw [List.append_nil] at silent
    rw [silent]
    rfl
  | turn turn asks =>
    rw [turn.repliesIn_append]
    exact asks.takes

theorem AsksInTurn.said (asks : AsksInTurn header body reply calls result) {sent field : Bytes}
    (said : Said calls sent field) :
    (sent = header ∧ field = body) ∨ sent ++ field = [0x00, 0x00] := by
  cases asks with
  | noTurn turn => exact absurd said (turn.said sent field)
  | turn turn asks =>
    rcases (said_append_iff ..).mp said with said | said
    · exact absurd said (turn.said sent field)
    · exact asks.said said

theorem AsksAs.takes {role : Role} (asks : AsksAs role header body reply calls result) :
    firstOf reply (repliesIn calls) = result.toOption := by
  cases role with
  | target => exact AsksInTurn.takes asks
  | initiator => exact Asks.takes asks

theorem AsksAs.said {role : Role} (asks : AsksAs role header body reply calls result)
    {sent field : Bytes} (said : Said calls sent field) :
    (sent = header ∧ field = body) ∨ sent ++ field = [0x00, 0x00] := by
  cases role with
  | target => exact AsksInTurn.said asks said
  | initiator => exact Asks.said asks said

end Asking

section Hearing

variable {α : Type} {type : PduType} {make : Bytes → Except Error α} {calls : List LinkCall}

theorem Hears.said {result : Except Error α} (hears : Hears type make calls result)
    {header body : Bytes} (said : Said calls header body) : header ++ body = [0x00, 0x00] := by
  cases hears with
  | unmet waits | met waits => exact waits.said said

theorem Hears.takes {answer : α} (hears : Hears type make calls (.ok answer)) :
    ∃ pdu, firstOf type (heardIn calls) = some pdu ∧ make pdu = .ok answer := by
  generalize same : Except.ok answer = result at hears
  cases hears with
  | unmet waits => cases same
  | met waits => exact ⟨_, waits.takes, rfl⟩

theorem Hears.takes_of_error {error : Error} (hears : Hears type make calls (.error error))
    {pdu : Bytes} (first : firstOf type (heardIn calls) = some pdu) :
    make pdu = .error error := by
  generalize same : Except.error error = result at hears
  cases hears with
  | unmet waits =>
    rw [waits.takes] at first
    cases first
  | met waits =>
    rw [waits.takes] at first
    cases first
    rfl

end Hearing

/-! ### What a step shows -/

namespace Step

variable {σ : Type}

/-- The calls that the operation made. -/
def calls (step : Step (Observed σ)) : List LinkCall :=
  step.after.link.calls.drop step.before.link.calls.length

/-- The information field that the operation answered. -/
def answer (step : Step σ) : Option Bytes :=
  match step.result with
  | .ok field => field
  | .error _ => none

variable [Host σ] [PeerLink σ]

theorem observed {operation : Operation} {before after : Endpoint (Observed σ)} {patience : Nat}
    {result : Except Error (Option Bytes)}
    (ended : (operation.perform patience before).ended = some (result, after)) :
    let step : Step (Observed σ) := ⟨operation, before, result, after⟩
    after.link.calls = before.link.calls ++ step.calls ∧
      Performs operation before.connection step.calls result after.connection := by
  intro step
  obtain ⟨calls, seen, performs⟩ := Operation.perform_observed ended
  have same : step.calls = calls := by
    rw [Step.calls, seen, List.drop_left]
  rw [same]
  exact ⟨seen, performs⟩

end Step

end NfcLink
