import NfcLink.Proofs.Snep.Conduct
import NfcLink.Proofs.Snep.Message

/-!
# The grammar of requests to put

Which information fields a pull takes, and for each other one the first thing that is wrong
with it. The two are complete: a field is a request to put or has a fault.
-/
namespace NfcLink.Snep

/-- A request to put this object. Anything may follow it. -/
def IsPut (object message : Bytes) : Prop :=
  object.length < 4294967296 ∧
    ∃ rest, message = header putRequest object.length ++ object ++ rest

/-- The message in a field, which may stand behind four stray octets. -/
def meant (acceptShifted : Bool) (field : Bytes) : Bytes :=
  if acceptShifted && shifted field then field.drop 4 else field

/-- The first of these faults that a field has: it is too short, the message meant by it is, the
version, the code, or the length that it declares is wrong. -/
inductive Faulty (acceptShifted : Bool) (field : Bytes) : Error → Prop where
  | short (under : field.length < headerLength) :
    Faulty acceptShifted field (.invalidLength headerLength field.length)
  | cut (long : headerLength ≤ field.length)
      (under : (meant acceptShifted field).length < headerLength) :
    Faulty acceptShifted field
      (.invalidLength headerLength (meant acceptShifted field).length)
  | version {octet : UInt8} {rest : Bytes} (long : headerLength ≤ field.length)
      (uncut : headerLength ≤ (meant acceptShifted field).length)
      (opens : meant acceptShifted field = octet :: rest) (other : octet ≠ Snep.version) :
    Faulty acceptShifted field (.versionMismatch Snep.version octet)
  | code {code : UInt8} {rest : Bytes} (long : headerLength ≤ field.length)
      (uncut : headerLength ≤ (meant acceptShifted field).length)
      (opens : meant acceptShifted field = Snep.version :: code :: rest)
      (other : code ≠ putRequest) :
    Faulty acceptShifted field (.opcodeMismatch putRequest code)
  | length {a b c d : UInt8} {rest : Bytes} (long : headerLength ≤ field.length)
      (opens : meant acceptShifted field = Snep.version :: putRequest :: a :: b :: c :: d :: rest)
      (exceeds : rest.length < Bytes.fromBigEndian a b c d) :
    Faulty acceptShifted field (.payloadTooLarge (Bytes.fromBigEndian a b c d) rest.length)

/-! ### Every field is one or the other -/

section Fields

variable {acceptShifted : Bool} {field message object : Bytes} {error : Error}

theorem IsPut.long (isPut : IsPut object message) : headerLength ≤ message.length := by
  obtain ⟨-, rest, rfl⟩ := isPut
  rw [List.append_assoc, List.length_append, header_length]
  exact Nat.le_add_right ..

theorem meant_length_le : (meant acceptShifted field).length ≤ field.length := by
  unfold meant
  split
  · rw [List.length_drop]
    exact Nat.sub_le ..
  · exact Nat.le_refl _

theorem exists_octets (long : headerLength ≤ message.length) :
    ∃ octet code a b c d rest, message = octet :: code :: a :: b :: c :: d :: rest := by
  rcases message with _ | ⟨octet, _ | ⟨code, _ | ⟨a, _ | ⟨b, _ | ⟨c, _ | ⟨d, rest⟩⟩⟩⟩⟩⟩
  all_goals first
    | exact ⟨octet, code, a, b, c, d, rest, rfl⟩
    | simp [headerLength] at long

/-- The object is what the declared length leaves of the rest. -/
theorem isPut_of_octets {a b c d : UInt8} {rest : Bytes}
    (fits : Bytes.fromBigEndian a b c d ≤ rest.length) :
    IsPut (rest.take (Bytes.fromBigEndian a b c d))
      (version :: putRequest :: a :: b :: c :: d :: rest) := by
  have length : (rest.take (Bytes.fromBigEndian a b c d)).length = Bytes.fromBigEndian a b c d :=
    List.length_take_of_le fits
  refine ⟨?_, rest.drop (Bytes.fromBigEndian a b c d), ?_⟩
  · rw [length]
    exact Bytes.fromBigEndian_lt a b c d
  rw [length, header, Bytes.bigEndian_fromBigEndian, List.append_assoc, List.take_append_drop]
  rfl

theorem isPut_or_faulty (acceptShifted : Bool) (field : Bytes) :
    (∃ object, IsPut object (meant acceptShifted field)) ∨
      ∃ error, Faulty acceptShifted field error := by
  -- Each fault is looked for where none of those that take precedence was found.
  by_cases under : field.length < headerLength
  · exact .inr ⟨_, .short under⟩
  have long := Nat.le_of_not_lt under
  by_cases cut : (meant acceptShifted field).length < headerLength
  · exact .inr ⟨_, .cut long cut⟩
  have uncut := Nat.le_of_not_lt cut
  obtain ⟨octet, code, a, b, c, d, rest, opens⟩ := exists_octets uncut
  by_cases versioned : octet = version
  · subst versioned
    by_cases coded : code = putRequest
    · subst coded
      rcases Nat.lt_or_ge rest.length (Bytes.fromBigEndian a b c d) with exceeds | fits
      · exact .inr ⟨_, .length long opens exceeds⟩
      · exact .inl ⟨_, opens ▸ isPut_of_octets fits⟩
    · exact .inr ⟨_, .code long uncut opens coded⟩
  · exact .inr ⟨_, .version long uncut opens versioned⟩

/-! ### What is read -/

theorem readRequest_of_long (long : headerLength ≤ field.length) :
    readRequest acceptShifted field = Snep.object (meant acceptShifted field) := by
  have passes : field.requireLength headerLength = .ok () := if_neg (Nat.not_lt_of_ge long)
  rw [readRequest, passes]
  rfl

theorem object_of_isPut (isPut : IsPut object message) : Snep.object message = .ok object := by
  obtain ⟨small, rest, rfl⟩ := isPut
  rw [List.append_assoc]
  exact object_putRequest object rest small

theorem readRequest_of_isPut (isPut : IsPut object (meant acceptShifted field)) :
    readRequest acceptShifted field = .ok object := by
  rw [readRequest_of_long (Nat.le_trans isPut.long meant_length_le)]
  exact object_of_isPut isPut

/-- A message that opens with a header is not taken for one with stray octets in front. -/
theorem meant_header (acceptShifted : Bool) (code : UInt8) (length : Nat) (rest : Bytes) :
    meant acceptShifted (header code length ++ rest) = header code length ++ rest := by
  rw [meant, not_shifted, Bool.and_false]
  rfl

theorem readRequest_putRequest (acceptShifted : Bool) (counted : object.length < 4294967296) :
    readRequest acceptShifted (header putRequest object.length ++ object) = .ok object := by
  apply readRequest_of_isPut
  rw [meant_header]
  exact ⟨counted, [], (List.append_nil _).symm⟩

theorem readRequest_of_faulty (faulty : Faulty acceptShifted field error) :
    readRequest acceptShifted field = .error error := by
  cases faulty with
  | short under =>
    have fails : field.requireLength headerLength =
      .error (.invalidLength headerLength field.length) := if_pos under
    rw [readRequest, fails]
    rfl
  | cut long under =>
    rw [readRequest_of_long long]
    generalize meant acceptShifted field = message at under
    unfold Snep.object
    split
    · -- A message that opens like this has the six octets that it lacks.
      simp [headerLength] at under
      omega
    · rfl
  | @version octet rest long uncut opens other =>
    rw [readRequest_of_long long]
    obtain ⟨first, code, a, b, c, d, behind, same⟩ := exists_octets uncut
    obtain ⟨rfl, -⟩ := List.cons.inj (opens.symm.trans same)
    have rejects : expectVersion octet = .error (.versionMismatch Snep.version octet) :=
      if_neg other
    rw [same, Snep.object, rejects]
    rfl
  | @code code rest long uncut opens other =>
    rw [readRequest_of_long long]
    obtain ⟨first, second, a, b, c, d, behind, same⟩ := exists_octets uncut
    obtain ⟨rfl, followed⟩ := List.cons.inj (opens.symm.trans same)
    obtain ⟨rfl, -⟩ := List.cons.inj followed
    have versioned : expectVersion Snep.version = .ok () := if_pos rfl
    have rejects : expectCode putRequest code = .error (.opcodeMismatch putRequest code) :=
      if_neg other
    rw [same, Snep.object, versioned, rejects]
    rfl
  | length long opens exceeds =>
    have versioned : expectVersion Snep.version = .ok () := if_pos rfl
    have coded : expectCode putRequest putRequest = .ok () := if_pos rfl
    rw [readRequest_of_long long, opens, Snep.object, versioned, coded]
    exact if_pos exceeds

/-- Only a part of the object has come. -/
theorem readRequest_of_cut {part : Bytes} (acceptShifted : Bool)
    (counted : object.length < 4294967296) (cut : part.length < object.length) :
    readRequest acceptShifted (header putRequest object.length ++ part) =
      .error (.payloadTooLarge object.length part.length) := by
  have declared := Bytes.fromBigEndian_bigEndian object.length counted
  have long : headerLength ≤ (header putRequest object.length ++ part).length := by
    rw [List.length_append, header_length]
    exact Nat.le_add_right ..
  have reads := readRequest_of_faulty
    (.length long (meant_header acceptShifted ..) (declared.symm ▸ cut))
  rw [declared] at reads
  exact reads

theorem readRequest_eq_ok_iff :
    readRequest acceptShifted field = .ok object ↔ IsPut object (meant acceptShifted field) := by
  refine ⟨fun reads => ?_, readRequest_of_isPut⟩
  rcases isPut_or_faulty acceptShifted field with ⟨found, isPut⟩ | ⟨error, faulty⟩
  · rw [readRequest_of_isPut isPut] at reads
    cases reads
    exact isPut
  · rw [readRequest_of_faulty faulty] at reads
    cases reads

theorem readRequest_eq_error_iff :
    readRequest acceptShifted field = .error error ↔ Faulty acceptShifted field error := by
  refine ⟨fun reads => ?_, readRequest_of_faulty⟩
  rcases isPut_or_faulty acceptShifted field with ⟨found, isPut⟩ | ⟨other, faulty⟩
  · rw [readRequest_of_isPut isPut] at reads
    cases reads
  · rw [readRequest_of_faulty faulty] at reads
    cases reads
    exact faulty

end Fields

end NfcLink.Snep
