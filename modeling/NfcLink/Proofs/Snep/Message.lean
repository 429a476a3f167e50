import NfcLink.Snep.Message

/-!
# Messages and their objects

A request to put is read back as the object that it was made for, and never taken
for one with stray octets in front, whatever the object looks like.
-/
namespace NfcLink

theorem Bytes.fromBigEndian_bigEndian (value : Nat) (fits : value < 4294967296) :
    fromBigEndian (UInt8.ofNat (value / 16777216)) (UInt8.ofNat (value / 65536))
      (UInt8.ofNat (value / 256)) (UInt8.ofNat value) = value := by
  simp only [fromBigEndian, UInt8.toNat_ofNat']
  omega

theorem Bytes.bigEndian_fromBigEndian (a b c d : UInt8) :
    bigEndian (fromBigEndian a b c d) = [a, b, c, d] := by
  have first := a.toNat_lt
  have second := b.toNat_lt
  have third := c.toNat_lt
  have fourth := d.toNat_lt
  have octet {value : Nat} (digit : UInt8) (same : value % 256 = digit.toNat) :
      UInt8.ofNat value = digit := by
    apply UInt8.toNat_inj.mp
    rw [UInt8.toNat_ofNat', same]
  unfold bigEndian fromBigEndian
  rw [octet a (by omega), octet b (by omega), octet c (by omega), octet d (by omega)]

namespace Snep

theorem header_length (code : UInt8) (length : Nat) : (header code length).length = headerLength :=
  rfl

/-- What follows the object is ignored. -/
theorem object_putRequest (object rest : Bytes) (fits : object.length < 4294967296) :
    Snep.object (header putRequest object.length ++ (object ++ rest)) = .ok object := by
  have length := Bytes.fromBigEndian_bigEndian object.length fits
  have versioned : expectVersion version = .ok () := if_pos rfl
  have coded : expectCode putRequest putRequest = .ok () := if_pos rfl
  have enough : ¬ object.length > (object ++ rest).length := by
    rw [List.length_append]
    exact Nat.not_lt_of_ge (Nat.le_add_right ..)
  simp only [header, Bytes.bigEndian, List.cons_append, List.nil_append, Snep.object, versioned,
    coded, bind, Except.bind, length, if_neg enough, List.take_left, pure, Except.pure]

theorem expectSuccess_success (length : Nat) : expectSuccess (header success length) = .ok () := by
  have long : Bytes.requireLength (header success length) headerLength = .ok () :=
    if_neg (by simp [header_length])
  have versioned : expectVersion version = .ok () := if_pos rfl
  have coded : expectCode success success = .ok () := if_pos rfl
  simp only [expectSuccess, long, bind, Except.bind]
  simp only [header, versioned, coded]

theorem expectCode_eq_ok_iff (wanted code : UInt8) :
    expectCode wanted code = .ok () ↔ code = wanted := by
  simp [expectCode]

theorem expectSuccess_eq_ok_iff (response : Bytes) :
    expectSuccess response = .ok () ↔
      headerLength ≤ response.length ∧ [version, success] <+: response := by
  by_cases long : headerLength ≤ response.length
  · have passes : Bytes.requireLength response headerLength = .ok () :=
      if_neg (Nat.not_lt_of_ge long)
    rcases response with _ | ⟨octet, _ | ⟨code, rest⟩⟩
    · simp [headerLength] at long
    · simp [headerLength] at long
    · simp only [expectSuccess, passes, bind, Except.bind]
      by_cases versioned : octet = version
      · subst versioned
        have accepts : expectVersion version = .ok () := if_pos rfl
        simp only [accepts, expectCode_eq_ok_iff, long, true_and, List.cons_prefix_cons,
          List.nil_prefix, and_true]
        exact eq_comm
      · simp [expectVersion, versioned, Ne.symm versioned]
  · have fails : Bytes.requireLength response headerLength =
        .error (.invalidLength headerLength response.length) :=
      if_pos (Nat.lt_of_not_ge long)
    simp [expectSuccess, fails, bind, Except.bind, long]

theorem not_shifted (code : UInt8) (length : Nat) (field : Bytes) :
    shifted (header code length ++ field) = false := by
  simp [shifted, header]

end Snep

end NfcLink
