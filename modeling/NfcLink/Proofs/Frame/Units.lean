import Mathlib.InformationTheory.Coding.UniquelyDecodable
import NfcLink.Frame.Ack
import NfcLink.Proofs.Frame.Wire

/-!
# What a controller puts on its line

Everything that travels is an acknowledgement, a repetition request or an
information frame. The three begin alike. A unit tells its own length
nevertheless, whatever stands behind it: the length octet of an information
frame has its checksum behind it, and in the fixed frames the octets at these
two places do not add up to zero. So a stream falls into units in one way only.
-/
namespace NfcLink

open InformationTheory

/-- The byte strings that are sent in one piece. -/
inductive WireUnit : Bytes → Prop where
  | acknowledgement : WireUnit Ack.frame
  | repetition : WireUnit Ack.negative
  | information {identifier : UInt8} {header body bytes : Bytes}
      (encoded : Frame.encodeFrom identifier header body = .ok bytes) : WireUnit bytes

namespace Frame

/-- An encoded frame is the wire form of a frame that fits. -/
theorem eq_wire_of_encodeFrom {identifier : UInt8} {header body bytes : Bytes}
    (encoded : encodeFrom identifier header body = .ok bytes) :
    Fits ⟨identifier, header ++ body⟩ ∧ bytes = wire ⟨identifier, header ++ body⟩ := by
  rw [encodeFrom_append] at encoded
  exact (encodeFrom_eq_ok_iff identifier (header ++ body) bytes).mp encoded

theorem declaredLength_of_encodeFrom {identifier : UInt8} {header body bytes : Bytes}
    (encoded : encodeFrom identifier header body = .ok bytes) (rest : Bytes) :
    ∃ length, declaredLength (bytes ++ rest) = .ok length ∧ bytes.length = overhead + length := by
  obtain ⟨fits, rfl⟩ := eq_wire_of_encodeFrom encoded
  exact ⟨_, declaredLength_append rest (declaredLength_wire _ fits), wire_length _⟩

theorem declaredLength_acknowledgement (rest : Bytes) :
    declaredLength (Ack.frame ++ rest) =
      .error (.invalidFrame (.lengthChecksum 0x00 0xFF)) := rfl

theorem declaredLength_repetition (rest : Bytes) :
    declaredLength (Ack.negative ++ rest) =
      .error (.invalidFrame (.lengthChecksum 0xFF 0x00)) := rfl

end Frame

/-- How long the unit is with which a stream begins, read off the stream itself. -/
def unitLength (stream : Bytes) : Option Nat :=
  match Frame.declaredLength stream with
  | .ok length => some (Frame.overhead + length)
  | .error _ =>
    if Ack.frame <+: stream ∨ Ack.negative <+: stream then some Ack.frame.length else none

namespace WireUnit

variable {one other : Bytes}

theorem unitLength_append (unit : WireUnit one) (rest : Bytes) :
    unitLength (one ++ rest) = some one.length := by
  cases unit with
  | acknowledgement =>
    rw [unitLength, Frame.declaredLength_acknowledgement]
    exact if_pos (.inl (List.prefix_append _ rest))
  | repetition =>
    rw [unitLength, Frame.declaredLength_repetition]
    exact if_pos (.inr (List.prefix_append _ rest))
  | information encoded =>
    obtain ⟨length, declared, size⟩ := Frame.declaredLength_of_encodeFrom encoded rest
    rw [unitLength, declared, size]

/-- Two streams that agree begin with the same unit. -/
theorem append_inj (unit : WireUnit one) (second : WireUnit other) {rest left : Bytes}
    (same : one ++ rest = other ++ left) : one = other ∧ rest = left := by
  have lengths : one.length = other.length := by
    apply Option.some.inj
    rw [← unit.unitLength_append rest, ← second.unitLength_append left, same]
  exact List.append_inj same lengths

theorem prefix_eq (unit : WireUnit one) (second : WireUnit other) (begins : one <+: other) :
    one = other := by
  obtain ⟨rest, same⟩ := begins
  rw [← List.append_nil other] at same
  exact (unit.append_inj second same).1

theorem ne_nil (unit : WireUnit one) : one ≠ [] := by
  rintro rfl
  have told := unit.unitLength_append []
  rw [show unitLength ([] ++ []) = none from rfl] at told
  cases told

end WireUnit

theorem wireUnit_uniquelyDecodable : UniquelyDecodable {bytes | WireUnit bytes} := by
  intro reading
  -- Two readings of one stream take the same unit off its front.
  induction reading with
  | nil =>
    intro other _ units same
    cases other with
    | nil => rfl
    | cons unit rest =>
      have empty := (List.append_eq_nil_iff.mp same.symm).1
      exact absurd empty (units unit List.mem_cons_self).ne_nil
  | cons unit rest ih =>
    intro other own units same
    have first := own unit List.mem_cons_self
    cases other with
    | nil => exact absurd (List.append_eq_nil_iff.mp same).1 first.ne_nil
    | cons second left =>
      rw [List.flatten_cons, List.flatten_cons] at same
      obtain ⟨rfl, behind⟩ := first.append_inj (units second List.mem_cons_self) same
      rw [ih left (fun each member => own each (List.mem_cons_of_mem _ member))
        (fun each member => units each (List.mem_cons_of_mem _ member)) behind]

/-- No information frame begins with an acknowledgement. -/
theorem Ack.expect_of_encodeFrom {identifier : UInt8} {header body bytes : Bytes}
    (encoded : Frame.encodeFrom identifier header body = .ok bytes) (rest : Bytes) :
    Ack.expect ((bytes ++ rest).take Ack.frame.length) =
      .error (.invalidAck ((bytes ++ rest).take Ack.frame.length)) := by
  have other : (bytes ++ rest).take Ack.frame.length ≠ Ack.frame := by
    intro same
    obtain ⟨length, declared, -⟩ := Frame.declaredLength_of_encodeFrom encoded rest
    rw [← List.take_append_drop Ack.frame.length (bytes ++ rest), same,
      Frame.declaredLength_acknowledgement] at declared
    cases declared
  rw [Ack.expect, Ack.accepts, if_neg (by simpa using other)]

/-- No unit is the beginning of another, a stream has at most one reading as units, an information
frame is not taken for an acknowledgement, and neither fixed frame is taken for the head of an
information frame. -/
theorem wireUnit_segments_uniquely :
    (∀ one other, WireUnit one → WireUnit other → one <+: other → one = other) ∧
    UniquelyDecodable {bytes | WireUnit bytes} ∧
    (∀ identifier header body bytes rest,
      Frame.encodeFrom identifier header body = .ok bytes →
        Ack.expect ((bytes ++ rest).take 6) = .error (.invalidAck ((bytes ++ rest).take 6))) ∧
    ∀ rest,
      (∃ fault, Frame.declaredLength (Ack.frame ++ rest) = .error (.invalidFrame fault)) ∧
        ∃ fault, Frame.declaredLength (Ack.negative ++ rest) = .error (.invalidFrame fault) := by
  refine ⟨?_, wireUnit_uniquelyDecodable, ?_, ?_⟩
  · intro one other unit second begins
    exact unit.prefix_eq second begins
  · intro identifier header body bytes rest encoded
    exact Ack.expect_of_encodeFrom encoded rest
  · intro rest
    exact ⟨⟨_, Frame.declaredLength_acknowledgement rest⟩,
      ⟨_, Frame.declaredLength_repetition rest⟩⟩

/-- An acknowledgement that a response carries as its data is not one that stands in its front. -/
theorem wireUnit_segments_uniquely_around_data :
    let reply : Bytes :=
      [0x00, 0x00, 0xFF, 0x07, 0xF9, 0xD5, 0x00, 0x00, 0xFF, 0x00, 0xFF, 0x00, 0x2D, 0x00]
    Frame.encodeFrom 0xD5 Ack.frame [] = .ok reply ∧ WireUnit Ack.frame ∧ WireUnit reply ∧
      ¬ Ack.frame <+: reply ∧
      Ack.expect ((reply ++ Ack.frame).take 6) =
        .error (.invalidAck [0x00, 0x00, 0xFF, 0x07, 0xF9, 0xD5]) := by
  intro reply
  have encoded : Frame.encodeFrom 0xD5 Ack.frame [] = .ok reply := by decide
  have unit : WireUnit reply := .information encoded
  refine ⟨encoded, .acknowledgement, unit, ?_, ?_⟩
  · intro begins
    have same := wireUnit_segments_uniquely.1 _ _ .acknowledgement unit begins
    exact absurd same (by decide)
  · exact wireUnit_segments_uniquely.2.2.1 _ _ _ _ Ack.frame encoded

end NfcLink
