import NfcLink.Frame

/-!
# The wire form of a frame

`wire` is the one byte string that stands for a frame. Encoding writes it and
decoding accepts it alone, so the two are inverse to each other on every byte
string and not only on those that an encoder wrote.
-/
namespace NfcLink.Frame

/-- The octets that the length field counts. -/
def counted (frame : Frame) : Bytes := frame.identifier :: frame.payload

/-- The first five octets of a frame that counts `length` octets. -/
def head (length : Nat) : Bytes :=
  start ++ [UInt8.ofNat length, Checksum.ofLength (UInt8.ofNat length)]

/-- What follows the head. -/
def tail (frame : Frame) : Bytes :=
  frame.counted ++ [Checksum.ofData frame.counted, closing]

def wire (frame : Frame) : Bytes := head frame.counted.length ++ frame.tail

/-- One of the two directions. -/
def Directed (frame : Frame) : Prop :=
  frame.identifier = fromHost ∨ frame.identifier = fromController

/-- What one length octet can count. -/
def Fits (frame : Frame) : Prop := frame.counted.length ≤ maxCounted

@[simp] theorem head_length (length : Nat) : (head length).length = headLength := rfl

theorem tail_length (frame : Frame) : frame.tail.length = frame.counted.length + 2 := by
  simp [tail]

theorem wire_length (frame : Frame) : frame.wire.length = overhead + frame.counted.length := by
  rw [wire, List.length_append, head_length, tail_length, overhead]
  omega

/-! ### Encoding -/

theorem encodeFrom_append (identifier : UInt8) (header body : Bytes) :
    encodeFrom identifier header body = encodeFrom identifier (header ++ body) [] := by
  simp only [encodeFrom, List.length_append, List.append_nil, List.length_nil, Nat.add_zero]

theorem encodeFrom_of_fits (identifier : UInt8) (header body : Bytes)
    (fits : header.length + body.length < maxCounted) :
    encodeFrom identifier header body = .ok (wire ⟨identifier, header ++ body⟩) := by
  have within : ¬ header.length + body.length + 1 > maxCounted := by omega
  simp only [encodeFrom, if_neg within, wire, head, tail, counted, List.length_cons,
    List.length_append, List.append_assoc]

theorem encodeFrom_of_overlong (identifier : UInt8) (header body : Bytes)
    (overlong : maxCounted ≤ header.length + body.length) :
    encodeFrom identifier header body =
      .error (.invalidLength maxCounted (header.length + body.length + 1)) := by
  have beyond : header.length + body.length + 1 > maxCounted := by omega
  simp only [encodeFrom, if_pos beyond]

/-! ### Heads -/

theorem declaredLength_eq_ok_iff (bytes : Bytes) (length : Nat) :
    declaredLength bytes = .ok length ↔
      0 < length ∧ length ≤ maxCounted ∧ head length <+: bytes := by
  constructor
  · intro accepted
    unfold declaredLength at accepted
    split at accepted
    next first second third octet checksum rest =>
      split at accepted
      · cases accepted
      next opening =>
        split at accepted
        · cases accepted
        next matching =>
          split at accepted
          · cases accepted
          next nonempty =>
            cases accepted
            -- Every check that was passed fixes one of the five octets.
            have below : octet.toNat < 256 := octet.toNat_lt
            have positive : 0 < octet.toNat := by
              rcases Nat.eq_zero_or_pos octet.toNat with zero | positive
              · exact absurd (UInt8.toNat_inj.mp zero) nonempty
              · exact positive
            have sum : checksum = Checksum.ofLength octet :=
              (Checksum.lengthMatches_iff octet checksum).mp (by simpa using matching)
            refine ⟨positive, Nat.le_of_lt_succ below, rest, ?_⟩
            rw [head, UInt8.ofNat_toNat, ← sum, ← Classical.not_not.mp opening]
            rfl
    · cases accepted
  · rintro ⟨positive, within, rest, rfl⟩
    have below : length < 256 := Nat.lt_succ_of_le within
    have same : (UInt8.ofNat length).toNat = length := UInt8.toNat_ofNat_of_lt' below
    have nonempty : UInt8.ofNat length ≠ 0 := by
      intro zero
      rw [zero] at same
      exact absurd same (Nat.ne_of_lt positive)
    have matching := (Checksum.lengthMatches_iff (UInt8.ofNat length) _).mpr rfl
    simp only [head, start, List.cons_append, List.nil_append, declaredLength, ne_eq,
      not_true_eq_false, if_false, matching, Bool.not_true, Bool.false_eq_true, nonempty, same]

/-- A head is judged by its own octets. -/
theorem declaredLength_append {bytes : Bytes} {length : Nat} (more : Bytes)
    (declared : declaredLength bytes = .ok length) :
    declaredLength (bytes ++ more) = .ok length := by
  obtain ⟨positive, within, begins⟩ := (declaredLength_eq_ok_iff bytes length).mp declared
  exact (declaredLength_eq_ok_iff _ length).mpr
    ⟨positive, within, begins.trans (List.prefix_append bytes more)⟩

theorem declaredLength_cases (bytes : Bytes) :
    (∃ length, declaredLength bytes = .ok length) ∨
      ∃ fault, declaredLength bytes = .error (.invalidFrame fault) := by
  unfold declaredLength
  split
  · split
    · exact .inr ⟨_, rfl⟩
    · split
      · exact .inr ⟨_, rfl⟩
      · split
        · exact .inr ⟨_, rfl⟩
        · exact .inl ⟨_, rfl⟩
  · exact .inr ⟨_, rfl⟩

/-! ### What follows a head -/

theorem ofDeclared_eq_ok_iff (bytes : Bytes) (length : Nat) (frame : Frame) :
    ofDeclared bytes length = .ok frame ↔
      frame.Directed ∧ frame.counted.length = length ∧ bytes.drop headLength = frame.tail := by
  constructor
  · intro accepted
    unfold ofDeclared at accepted
    split at accepted
    next identifier payload checksum last middle final =>
      split at accepted
      · cases accepted
      next direction =>
        split at accepted
        · cases accepted
        next matching =>
          split at accepted
          · cases accepted
          next postamble =>
            cases accepted
            have sum : checksum = Checksum.ofData (identifier :: payload) :=
              (Checksum.dataMatches_iff _ checksum).mp (by simpa using matching)
            -- The counted octets and the two behind them are all that follows the head.
            rw [← List.drop_drop] at final
            have whole := List.take_append_drop length (bytes.drop headLength)
            rw [middle, final, sum, Classical.not_not.mp postamble] at whole
            have size : length ≤ (bytes.drop headLength).length := by
              have rest := congrArg List.length final
              rw [List.length_drop] at rest
              simp only [List.length_cons, List.length_nil] at rest
              omega
            have counted := congrArg List.length middle
            rw [List.length_take_of_le size] at counted
            refine ⟨?_, counted.symm, whole.symm⟩
            by_cases host : identifier = fromHost
            · exact .inl host
            · exact .inr (Classical.not_not.mp fun other => direction ⟨host, other⟩)
    · cases accepted
  · rintro ⟨direction, rfl, rest⟩
    have middle : (bytes.drop headLength).take frame.counted.length = frame.counted := by
      rw [rest, tail, List.take_left]
    have final : bytes.drop (headLength + frame.counted.length) =
        [Checksum.ofData frame.counted, closing] := by
      rw [← List.drop_drop, rest, tail, List.drop_left]
    have known : ¬ (frame.identifier ≠ fromHost ∧ frame.identifier ≠ fromController) := by
      rintro ⟨host, controller⟩
      exact direction.elim host controller
    have matching := (Checksum.dataMatches_iff frame.counted _).mpr rfl
    simp only [ofDeclared, middle, final]
    simp only [counted] at matching ⊢
    simp only [if_neg known, matching, Bool.not_true, Bool.false_eq_true, if_false, ne_eq,
      not_true_eq_false]

theorem ofDeclared_cases (bytes : Bytes) (length : Nat) :
    (∃ frame, ofDeclared bytes length = .ok frame) ∨
      ∃ fault, ofDeclared bytes length = .error (.invalidFrame fault) := by
  unfold ofDeclared
  split
  · split
    · exact .inr ⟨_, rfl⟩
    · split
      · exact .inr ⟨_, rfl⟩
      · split
        · exact .inr ⟨_, rfl⟩
        · exact .inl ⟨_, rfl⟩
  · exact .inr ⟨_, rfl⟩

/-! ### Decoding -/

theorem declaredLength_wire (frame : Frame) (fits : frame.Fits) :
    declaredLength frame.wire = .ok frame.counted.length :=
  (declaredLength_eq_ok_iff _ _).mpr ⟨Nat.succ_pos _, fits, frame.tail, rfl⟩

theorem decode_eq_ok_iff (bytes : Bytes) (frame : Frame) :
    decode bytes = .ok frame ↔ frame.Directed ∧ frame.Fits ∧ bytes = frame.wire := by
  constructor
  · intro accepted
    unfold decode at accepted
    cases declared : declaredLength bytes with
    | error fault => simp [declared, bind, Except.bind] at accepted
    | ok length =>
      simp only [declared, bind, Except.bind] at accepted
      obtain ⟨direction, rfl, rest⟩ := (ofDeclared_eq_ok_iff _ _ _).mp accepted
      obtain ⟨-, fits, suffix, rfl⟩ := (declaredLength_eq_ok_iff _ _).mp declared
      have same : suffix = frame.tail := by
        rw [← rest, ← head_length frame.counted.length, List.drop_left]
      exact ⟨direction, fits, by rw [same, wire]⟩
  · rintro ⟨direction, fits, rfl⟩
    have declared := declaredLength_wire frame fits
    have rest : frame.wire.drop headLength = frame.tail := by
      rw [wire, ← head_length frame.counted.length, List.drop_left]
    simp only [decode, declared, bind, Except.bind]
    exact (ofDeclared_eq_ok_iff _ _ _).mpr ⟨direction, rfl, rest⟩

theorem decode_cases (bytes : Bytes) :
    (∃ frame, decode bytes = .ok frame) ∨
      ∃ fault, decode bytes = .error (.invalidFrame fault) := by
  unfold decode
  rcases declaredLength_cases bytes with ⟨length, accepted⟩ | ⟨fault, refused⟩
  · rw [accepted]
    exact ofDeclared_cases bytes length
  · exact .inr ⟨fault, by rw [refused]; rfl⟩

theorem encodeFrom_eq_ok_iff (identifier : UInt8) (payload bytes : Bytes) :
    encodeFrom identifier payload [] = .ok bytes ↔
      Fits ⟨identifier, payload⟩ ∧ bytes = wire ⟨identifier, payload⟩ := by
  rcases Nat.lt_or_ge payload.length maxCounted with fits | overlong
  · rw [encodeFrom_of_fits identifier payload [] fits, List.append_nil, Except.ok.injEq]
    exact ⟨fun same => ⟨fits, same.symm⟩, fun ⟨_, same⟩ => same.symm⟩
  · rw [encodeFrom_of_overlong identifier payload [] overlong]
    exact ⟨fun same => (nomatch same), fun ⟨fits, _⟩ => absurd fits (Nat.not_le_of_gt
      (Nat.lt_succ_of_le overlong))⟩

/-- Encoding and decoding are inverse to each other: the octets that decode to a frame are those
that the frame encodes to, and no others. -/
theorem decode_inverts_encodeFrom (bytes header body payload : Bytes) (identifier : UInt8) :
    (decode bytes = .ok ⟨identifier, payload⟩ ↔
      (identifier = 0xD4 ∨ identifier = 0xD5) ∧ encodeFrom identifier payload [] = .ok bytes) ∧
    encodeFrom identifier header body = encodeFrom identifier (header ++ body) [] ∧
    (∀ error, encodeFrom identifier header body = .error error ↔
      254 < header.length + body.length ∧
        error = .invalidLength 255 (header.length + body.length + 1)) ∧
    ((∃ frame, decode bytes = .ok frame) ∨
      ∃ fault, decode bytes = .error (.invalidFrame fault)) := by
  refine ⟨?_, encodeFrom_append identifier header body, ?_, decode_cases bytes⟩
  · rw [decode_eq_ok_iff, encodeFrom_eq_ok_iff]
    rfl
  · intro error
    rcases Nat.lt_or_ge (header.length + body.length) maxCounted with fits | overlong
    · rw [encodeFrom_of_fits identifier header body fits]
      exact ⟨fun refused => (nomatch refused),
        fun ⟨beyond, _⟩ => absurd fits (Nat.not_lt_of_ge beyond)⟩
    · rw [encodeFrom_of_overlong identifier header body overlong, Except.error.injEq]
      exact ⟨fun same => ⟨overlong, same.symm⟩, fun ⟨_, same⟩ => same.symm⟩

end NfcLink.Frame
