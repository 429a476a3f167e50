import NfcLink.Proofs.Snep.PushPull

/-!
# What a push says

However far a push comes, the only information PDU that it sends is its request to put,
and that is the longest of all the PDUs that it sends.
-/
namespace NfcLink

/-! ### How long PDUs are -/

theorem PduHeader.encode_length_le (header : PduHeader) : header.encode.length ≤ 3 := by
  rw [encode_length, encodedLength]
  split <;> decide

/-- No PDU that an operation sends is longer. -/
def Operation.longest : Operation → Nat
  | .connect _ => 3 + connectParameters.length
  | .transmit header body => 3 + (header.length + body.length)
  | _ => 3

theorem Operation.three_le_longest (operation : Operation) : 3 ≤ operation.longest := by
  cases operation with
  | connect | transmit => exact Nat.le_add_right ..
  | _ => exact Nat.le_refl 3

theorem Operation.Sends.length_le {connection : Connection} {operation : Operation} {pdu : Bytes}
    (sends : operation.Sends connection pdu) : pdu.length ≤ operation.longest := by
  cases sends with
  | bare pdu => exact Nat.le_trans pdu.encode_length_le operation.three_le_longest
  | proposal timeoutMs =>
    rw [List.length_append]
    exact Nat.add_le_add_right (PduHeader.encode_length_le _) _
  | information header body =>
    rw [List.append_assoc, List.length_append, List.length_append]
    exact Nat.add_le_add_right (PduHeader.encode_length_le _) _

section Plans

variable {before after : Connection} {plan : List Operation} {calls : List LinkCall}
variable {limit : Nat} {header body : Bytes}

theorem Carries.said_length_le {answers : List (Option Bytes)}
    (carries : Carries before plan calls answers after)
    (within : ∀ operation ∈ plan, operation.longest ≤ limit) (said : Said calls header body) :
    (header ++ body).length ≤ limit := by
  induction carries with
  | start => simp [Said] at said
  | next carries performs ih =>
    rcases (said_append_iff ..).mp said with said | said
    · exact ih (fun operation member => within operation (List.mem_append_left _ member)) said
    · exact Nat.le_trans (performs.sends said).length_le
        (within _ (List.mem_append_right _ List.mem_cons_self))

theorem Stops.said_length_le {error : Error} (stops : Stops before plan calls error after)
    (within : ∀ operation ∈ plan, operation.longest ≤ limit) (said : Said calls header body) :
    (header ++ body).length ≤ limit := by
  cases stops with
  | here split carries performs =>
    subst split
    rcases (said_append_iff ..).mp said with said | said
    · exact carries.said_length_le
        (fun operation member => within operation (List.mem_append_left _ member)) said
    · exact Nat.le_trans (performs.sends said).length_le
        (within _ (List.mem_append_right _ List.mem_cons_self))

end Plans

/-! ### The request of a push -/

namespace Snep

section Pushing

variable {object : Bytes} {timeoutMs : Nat} {before ready between after : Connection}
variable {calls connecting sending : List LinkCall}

theorem pushPlan_longest (fits : object.length ≤ maxObject) :
    ∀ operation ∈ pushPlan object timeoutMs, operation.longest ≤ 253 := by
  have connects : 3 + connectParameters.length ≤ 253 := by decide
  unfold maxObject at fits
  simp only [pushPlan, List.mem_cons, List.not_mem_nil, or_false, forall_eq_or_imp, forall_eq,
    Operation.longest, header_length, headerLength]
  exact ⟨connects, by omega, by decide⟩

theorem Pushes.said_length_le {result : Except Error Unit}
    (pushes : Pushes object timeoutMs before calls result after) {header body : Bytes}
    (said : Said calls header body) : (header ++ body).length ≤ 253 := by
  have brief {operation : Operation} {first last : Connection} {made : List LinkCall}
      {ending : Except Error (Option Bytes)} (short : operation.longest = 3)
      (performs : Performs operation first made ending last) (said : Said made header body) :
      (header ++ body).length ≤ 253 :=
    Nat.le_trans (performs.sends said).length_le (by rw [short]; decide)
  cases pushes with
  | tooLarge exceeds => simp [Said] at said
  | unactivated fits performs => exact brief rfl performs said
  | stopped fits activates stops =>
    rcases (said_append_iff ..).mp said with said | said
    · exact brief rfl activates said
    · exact stops.said_length_le (pushPlan_longest fits) said
  | rejected fits activates carries rejects =>
    rcases (said_append_iff ..).mp said with said | said
    · exact brief rfl activates said
    · exact carries.said_length_le (pushPlan_longest fits) said
  | pushed fits activates carries accepts releases =>
    rcases (said_append_iff ..).mp said with said | said
    · exact brief rfl activates said
    rcases (said_append_iff ..).mp said with said | said
    · exact carries.said_length_le (pushPlan_longest fits) said
    · exact brief rfl releases said

/-- A connection that was proposed with success has its first number to give away. -/
theorem transmit_informs {answer : Option Bytes} {result : Except Error (Option Bytes)}
    (connects : Performs (.connect timeoutMs) before connecting (.ok answer) between)
    (transmits : Performs (.transmit (header putRequest object.length) object) between sending
      result after) :
    ∀ pdu ∈ informedIn (connecting ++ sending), pdu = putFrame object := by
  obtain ⟨rfl, -⟩ := connects.proposal
  intro pdu member
  rw [informedIn_append, connects.informedIn_eq_nil nofun, List.nil_append] at member
  obtain ⟨header, body, ⟨rfl, rfl⟩, rfl⟩ := transmits.of_informs member
  rfl

theorem stops_informs {error : Error}
    (stops : Stops ready (pushPlan object timeoutMs) calls error after) :
    ∀ pdu ∈ informedIn calls, pdu = putFrame object := by
  cases stops with
  | @here earlier later operation _ _ _ _ _ _ split carries performs =>
    -- The plan can stop at each of its three operations.
    rcases earlier with _ | ⟨first, _ | ⟨second, _ | ⟨third, more⟩⟩⟩
    · cases split
      obtain ⟨rfl, -⟩ := carries.nothing
      rw [List.nil_append, performs.informedIn_eq_nil nofun]
      exact List.forall_mem_nil _
    · cases split
      obtain ⟨answer, -, connects⟩ := carries.single
      exact transmit_informs connects performs
    · cases split
      obtain ⟨_, _, connecting, sending, connected, -, rfl, connects, transmits⟩ := carries.pair
      rw [informedIn_append, performs.informedIn_eq_nil nofun, List.append_nil]
      exact transmit_informs connects transmits
    · simp [pushPlan] at split

theorem carries_informs {response : Bytes}
    (carries : Carries ready (pushPlan object timeoutMs) calls [none, none, some response] after) :
    ∀ pdu ∈ informedIn calls, pdu = putFrame object := by
  obtain ⟨connecting, sending, receiving, connected, sent, rfl, connects, transmits, receives⟩ :=
    carries_pushPlan carries
  rw [← List.append_assoc, informedIn_append, receives.informedIn_eq_nil nofun, List.append_nil]
  exact transmit_informs connects transmits

theorem Pushes.informs {result : Except Error Unit}
    (pushes : Pushes object timeoutMs before calls result after) :
    ∀ pdu ∈ informedIn calls, pdu = putFrame object := by
  cases pushes with
  | tooLarge exceeds => exact List.forall_mem_nil _
  | unactivated fits performs =>
    rw [performs.informedIn_eq_nil nofun]
    exact List.forall_mem_nil _
  | stopped fits activates stops =>
    rw [informedIn_append, activates.informedIn_eq_nil nofun, List.nil_append]
    exact stops_informs stops
  | rejected fits activates carries rejects =>
    rw [informedIn_append, activates.informedIn_eq_nil nofun, List.nil_append]
    exact carries_informs carries
  | pushed fits activates carries accepts releases =>
    rw [informedIn_append, informedIn_append, activates.informedIn_eq_nil nofun,
      releases.informedIn_eq_nil nofun, List.nil_append, List.append_nil]
    exact carries_informs carries

end Pushing

end Snep

end NfcLink
