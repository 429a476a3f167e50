import NfcLink.Proofs.Frame.Wire

/-!
# Frames decoded into a buffer

Decoding into a buffer of fixed size judges the head, then the room that the declared
length leaves, and only then what follows the head. Where there is room it ends as plain
decoding does, and no end but success writes an octet of the buffer.
-/
namespace NfcLink.Frame

/-- The head declares more octets of payload than the buffer holds. -/
def Exceeds (bytes buffer : Bytes) (length : Nat) : Prop :=
  declaredLength bytes = .ok length ∧ buffer.length < length - 1

/-- Plain decoding, and the payload written over the front of the buffer. -/
def written (buffer : Bytes) : Except Error Frame → Except Error Nat × Bytes
  | .ok frame => (.ok frame.payload.length, frame.payload ++ buffer.drop frame.payload.length)
  | .error error => (.error error, buffer)

variable {bytes buffer : Bytes} {length : Nat}

/-- The length counts the identifier and the payload. -/
theorem payload_length_of_ofDeclared {frame : Frame}
    (accepted : ofDeclared bytes length = .ok frame) : frame.payload.length = length - 1 := by
  obtain ⟨-, counted, -⟩ := (ofDeclared_eq_ok_iff _ _ _).mp accepted
  simp only [Frame.counted, List.length_cons] at counted
  omega

theorem declaredLength_of_decode {frame : Frame} (decoded : decode bytes = .ok frame) :
    declaredLength bytes = .ok (frame.payload.length + 1) := by
  obtain ⟨-, fits, rfl⟩ := (decode_eq_ok_iff _ _).mp decoded
  exact declaredLength_wire frame fits

theorem fill_of_exceeds (exceeds : Exceeds bytes buffer length) :
    fill bytes buffer = (.error (.noSpace (length - 1) buffer.length), buffer) := by
  obtain ⟨declared, small⟩ := exceeds
  simp only [fill, declared, gt_iff_lt, if_pos small]

/-- Where there is room, the two decoders judge the same octets in the same order. -/
theorem fill_of_room (room : ∀ length, ¬ Exceeds bytes buffer length) :
    fill bytes buffer = written buffer (decode bytes) := by
  unfold fill decode
  cases declared : declaredLength bytes with
  | error fault => rfl
  | ok length =>
    have enough : ¬ length - 1 > buffer.length := fun small => room length ⟨declared, small⟩
    simp only [if_neg enough, bind, Except.bind]
    cases accepted : ofDeclared bytes length with
    | error fault => rfl
    | ok frame => simp only [written, payload_length_of_ofDeclared accepted]

/-- A decoded payload fits exactly where there is room. -/
theorem room_of_decode {frame : Frame} (decoded : decode bytes = .ok frame) :
    (∀ length, ¬ Exceeds bytes buffer length) ↔ frame.payload.length ≤ buffer.length := by
  have declared := declaredLength_of_decode decoded
  constructor
  · intro room
    have within := room (frame.payload.length + 1)
    simp only [Exceeds, declared, true_and, Nat.add_sub_cancel] at within
    omega
  · rintro fits length ⟨same, small⟩
    rw [declared, Except.ok.injEq] at same
    omega

theorem fill_eq_ok_iff (bytes buffer : Bytes) (count : Nat) (after : Bytes) :
    fill bytes buffer = (.ok count, after) ↔
      ∃ frame, decode bytes = .ok frame ∧ frame.payload.length ≤ buffer.length ∧
        count = frame.payload.length ∧ after.take count = frame.payload ∧
        after.drop count = buffer.drop count := by
  constructor
  · intro filled
    have room : ∀ length, ¬ Exceeds bytes buffer length := by
      intro length exceeds
      rw [fill_of_exceeds exceeds] at filled
      cases filled
    rw [fill_of_room room] at filled
    cases decoded : decode bytes with
    | error fault =>
      rw [decoded] at filled
      cases filled
    | ok frame =>
      rw [decoded] at filled
      cases filled
      exact ⟨frame, rfl, (room_of_decode decoded).mp room, rfl, List.take_left, List.drop_left⟩
  · rintro ⟨frame, decoded, fits, rfl, front, rest⟩
    have whole := List.take_append_drop frame.payload.length after
    rw [front, rest] at whole
    rw [fill_of_room ((room_of_decode decoded).mpr fits), decoded, written, whole]

theorem fill_eq_error_iff (bytes buffer : Bytes) (error : Error) (after : Bytes) :
    fill bytes buffer = (.error error, after) ↔
      after = buffer ∧
        ((∃ length, Exceeds bytes buffer length ∧
            error = .noSpace (length - 1) buffer.length) ∨
          (∀ length, ¬ Exceeds bytes buffer length) ∧ decode bytes = .error error) := by
  constructor
  · intro failed
    by_cases exceeds : ∃ length, Exceeds bytes buffer length
    · obtain ⟨length, exceeds⟩ := exceeds
      rw [fill_of_exceeds exceeds] at failed
      cases failed
      exact ⟨rfl, .inl ⟨length, exceeds, rfl⟩⟩
    · have room := not_exists.mp exceeds
      rw [fill_of_room room] at failed
      cases decoded : decode bytes with
      | ok frame =>
        rw [decoded] at failed
        cases failed
      | error fault =>
        rw [decoded] at failed
        cases failed
        exact ⟨rfl, .inr ⟨room, rfl⟩⟩
  · rintro ⟨rfl, ⟨length, exceeds, rfl⟩ | ⟨room, refused⟩⟩
    · exact fill_of_exceeds exceeds
    · rw [fill_of_room room, refused, written]

/-- Plain decoding never asks for space, so a lack of it is always the buffer's. -/
theorem fill_eq_noSpace_iff (bytes buffer : Bytes) (needed capacity : Nat) (after : Bytes) :
    fill bytes buffer = (.error (.noSpace needed capacity), after) ↔
      after = buffer ∧ ∃ length, Exceeds bytes buffer length ∧ needed = length - 1 ∧
        capacity = buffer.length := by
  rw [fill_eq_error_iff]
  constructor
  · rintro ⟨kept, ⟨length, exceeds, same⟩ | ⟨-, refused⟩⟩
    · cases same
      exact ⟨kept, length, exceeds, rfl, rfl⟩
    · rcases decode_cases bytes with ⟨frame, decoded⟩ | ⟨fault, decoded⟩
      · rw [decoded] at refused
        cases refused
      · rw [decoded] at refused
        cases refused
  · rintro ⟨kept, length, exceeds, rfl, rfl⟩
    exact ⟨kept, .inl ⟨length, exceeds, rfl⟩⟩

/-- Decoding into a buffer succeeds exactly when plain decoding does and its payload fits, and then
overwrites that many octets at the front of the buffer. In every other case the buffer is as it was,
and the error is that there is no space exactly when an accepted head declares too much, else the
one of plain decoding. -/
theorem fill_agrees_with_decode (bytes buffer : Bytes) :
    (∀ count after, fill bytes buffer = (.ok count, after) ↔
      ∃ frame, decode bytes = .ok frame ∧ frame.payload.length ≤ buffer.length ∧
        count = frame.payload.length ∧ after.take count = frame.payload ∧
        after.drop count = buffer.drop count) ∧
    (∀ error after, fill bytes buffer = (.error error, after) ↔
      after = buffer ∧
        ((∃ length, Exceeds bytes buffer length ∧
            error = .noSpace (length - 1) buffer.length) ∨
          (∀ length, ¬ Exceeds bytes buffer length) ∧ decode bytes = .error error)) ∧
    ∀ needed capacity after, fill bytes buffer = (.error (.noSpace needed capacity), after) ↔
      after = buffer ∧ ∃ length, Exceeds bytes buffer length ∧ needed = length - 1 ∧
        capacity = buffer.length := by
  refine ⟨?_, ?_, ?_⟩
  · intro count after
    exact fill_eq_ok_iff bytes buffer count after
  · intro error after
    exact fill_eq_error_iff bytes buffer error after
  · intro needed capacity after
    exact fill_eq_noSpace_iff bytes buffer needed capacity after

/-- The room is judged before the rest of the frame, here one that is cut off. -/
example : fill [0x00, 0x00, 0xFF, 0x05, 0xFB, 0xD5] [0xAA] = (.error (.noSpace 4 1), [0xAA]) := rfl

end NfcLink.Frame
