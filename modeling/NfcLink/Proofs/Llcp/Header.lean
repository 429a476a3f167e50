import NfcLink.Llcp.Header

/-!
# Headers on the wire

A header whose type has a code of its own, and which has numbers when its type
calls for them, is read back from the octets it is written as, whatever follows.
Conversely, what can be read is the header that writes those octets, and the only
octets that cannot be read are too few of them.
-/
namespace NfcLink.PduHeader

/-- What the octets of a header can say. -/
structure WellFormed (header : PduHeader) : Prop where
  coded : PduType.ofBits header.type.bits = header.type
  numbered : header.numbers.isSome = header.type.sequenced

/-! ### The fields in the octets -/

section Octets

variable (dsap ssap : Sap) (bits : Fin 16) (ns nr : Seq)

theorem first_toNat :
    (UInt8.ofNat (dsap.val * 4 + bits.val / 4)).toNat = dsap.val * 4 + bits.val / 4 := by
  have destination := dsap.isLt
  have type := bits.isLt
  have below : dsap.val * 4 + bits.val / 4 < 256 := by omega
  exact UInt8.toNat_ofNat_of_lt' below

theorem second_toNat :
    (UInt8.ofNat (bits.val % 4 * 64 + ssap.val)).toNat = bits.val % 4 * 64 + ssap.val := by
  have source := ssap.isLt
  have below : bits.val % 4 * 64 + ssap.val < 256 := by omega
  exact UInt8.toNat_ofNat_of_lt' below

theorem third_toNat :
    (UInt8.ofNat (ns.val * 16 + nr.val)).toNat = ns.val * 16 + nr.val := by
  have sent := ns.isLt
  have received := nr.isLt
  have below : ns.val * 16 + nr.val < 256 := by omega
  exact UInt8.toNat_ofNat_of_lt' below

theorem dsap_of_first : Fin.ofNat 64 ((dsap.val * 4 + bits.val / 4) / 4) = dsap := by
  have destination := dsap.isLt
  have type := bits.isLt
  apply Fin.ext
  change (dsap.val * 4 + bits.val / 4) / 4 % 64 = dsap.val
  omega

theorem ssap_of_second : Fin.ofNat 64 (bits.val % 4 * 64 + ssap.val) = ssap := by
  have source := ssap.isLt
  apply Fin.ext
  change (bits.val % 4 * 64 + ssap.val) % 64 = ssap.val
  omega

theorem bits_of_both :
    Fin.ofNat 16 ((dsap.val * 4 + bits.val / 4) % 4 * 4 +
      (bits.val % 4 * 64 + ssap.val) / 64) = bits := by
  have source := ssap.isLt
  have type := bits.isLt
  apply Fin.ext
  change ((dsap.val * 4 + bits.val / 4) % 4 * 4 + (bits.val % 4 * 64 + ssap.val) / 64) % 16 =
    bits.val
  omega

theorem ns_of_third : Fin.ofNat 16 ((ns.val * 16 + nr.val) / 16) = ns := by
  have received := nr.isLt
  have sent := ns.isLt
  apply Fin.ext
  change (ns.val * 16 + nr.val) / 16 % 16 = ns.val
  omega

theorem nr_of_third : Fin.ofNat 16 (ns.val * 16 + nr.val) = nr := by
  have received := nr.isLt
  apply Fin.ext
  change (ns.val * 16 + nr.val) % 16 = nr.val
  omega

end Octets

/-! ### Reading back -/

theorem typeOf_encode (header : PduHeader) (field : Bytes)
    (coded : PduType.ofBits header.type.bits = header.type) :
    typeOf (header.encode ++ field) = .ok header.type := by
  simp only [encode, List.cons_append, typeOf, first_toNat, second_toNat, bits_of_both, coded]

theorem split_encode (header : PduHeader) (field : Bytes) (formed : header.WellFormed) :
    split (header.encode ++ field) = .ok (header, field) := by
  have typed := typeOf_encode header field formed.coded
  have numbered := formed.numbered
  obtain ⟨dsap, type, ssap, numbers⟩ := header
  unfold split
  rw [typed]
  -- Only a header with numbers has a third octet in front of the field.
  cases numbers with
  | none =>
    have plain : type.sequenced = false := numbered.symm
    simp only [encode, List.cons_append, List.nil_append, bind, Except.bind, first_toNat,
      second_toNat, dsap_of_first, ssap_of_second, plain, Bool.false_eq_true, if_false, pure,
      Except.pure]
  | some both =>
    have sequenced : type.sequenced = true := numbered.symm
    simp only [encode, List.cons_append, List.nil_append, bind, Except.bind, first_toNat,
      second_toNat, third_toNat, dsap_of_first, ssap_of_second, sequenced, if_true, pure,
      Except.pure, withNumbers, Seq.ofByte, ns_of_third, nr_of_third]

theorem parse_encode (header : PduHeader) (field : Bytes) (formed : header.WellFormed) :
    parse (header.encode ++ field) = .ok header := by
  rw [parse, split_encode header field formed]
  rfl

/-! ### What is read -/

/-- A PDU of a numbered type that can be read has three octets in front of its field, the third
holding the numbers. -/
theorem split_sequenced {pdu : Bytes} {type : PduType} {header : PduHeader} {field : Bytes}
    (typed : typeOf pdu = .ok type) (sequenced : type.sequenced = true)
    (read : split pdu = .ok (header, field)) :
    3 ≤ pdu.length ∧ field = pdu.drop 3 ∧ header.numbers.isSome = true := by
  unfold split at read
  rw [typed] at read
  rcases pdu with _ | ⟨first, _ | ⟨second, _ | ⟨numbers, rest⟩⟩⟩
  · cases read
  · cases read
  · simp only [bind, Except.bind, sequenced, if_true] at read
    cases read
  · simp only [bind, Except.bind, sequenced, if_true, pure, Except.pure] at read
    cases read
    exact ⟨by simp, rfl, rfl⟩

/-- What is read is written back as it was. -/
theorem encode_append_of_split {pdu : Bytes} {header : PduHeader} {field : Bytes}
    (read : split pdu = .ok (header, field)) : header.encode ++ field = pdu := by
  rcases pdu with _ | ⟨first, _ | ⟨second, rest⟩⟩
  · cases read
  · cases read
  have low := first.toNat_lt
  have high := second.toNat_lt
  -- The four bits of the type stand in both octets.
  have destination : UInt8.ofNat (first.toNat / 4 % 64 * 4 +
      (first.toNat % 4 * 4 + second.toNat / 64) % 16 / 4) = first := by
    apply UInt8.toNat_inj.mp
    rw [UInt8.toNat_ofNat']
    omega
  have source : UInt8.ofNat ((first.toNat % 4 * 4 + second.toNat / 64) % 16 % 4 * 64 +
      second.toNat % 64) = second := by
    apply UInt8.toNat_inj.mp
    rw [UInt8.toNat_ofNat']
    omega
  simp only [split, typeOf, bind, Except.bind] at read
  split at read
  · rcases rest with _ | ⟨numbers, rest⟩
    · cases read
    · have octet := numbers.toNat_lt
      have both : UInt8.ofNat (numbers.toNat / 16 % 16 * 16 + numbers.toNat % 16) = numbers := by
        apply UInt8.toNat_inj.mp
        rw [UInt8.toNat_ofNat']
        omega
      cases read
      simp only [encode, withNumbers, PduType.bits_ofBits, Fin.ofNat, Seq.ofByte, destination,
        source, both, List.cons_append, List.nil_append]
  · cases read
    simp only [encode, PduType.bits_ofBits, Fin.ofNat, destination, source, List.cons_append,
      List.nil_append]

theorem type_of_split {pdu : Bytes} {type : PduType} {header : PduHeader} {field : Bytes}
    (typed : typeOf pdu = .ok type) (read : split pdu = .ok (header, field)) :
    header.type = type := by
  rcases pdu with _ | ⟨first, _ | ⟨second, rest⟩⟩
  · cases read
  · cases read
  simp only [split, typed, bind, Except.bind] at read
  split at read
  · rcases rest with _ | ⟨numbers, rest⟩ <;> cases read
    rfl
  · cases read
    rfl

/-- Three octets are enough to be read. -/
theorem split_of_long {pdu : Bytes} {error : Error} (long : 3 ≤ pdu.length) :
    split pdu ≠ .error error := by
  obtain ⟨first, second, numbers, field, rfl⟩ : ∃ first second numbers field,
      pdu = first :: second :: numbers :: field := by
    rcases pdu with _ | ⟨first, _ | ⟨second, _ | ⟨numbers, field⟩⟩⟩
    · simp at long
    · simp at long
    · simp at long
    · exact ⟨first, second, numbers, field, rfl⟩
  simp only [split, typeOf, bind, Except.bind]
  split <;> nofun

/-! ### Both directions -/

theorem wellFormed_of_coded {header : PduHeader} {octet : UInt8}
    (coded : header.type = PduType.ofByte octet)
    (numbered : header.numbers.isSome = header.type.sequenced) : header.WellFormed where
  coded := by
    rw [coded, PduType.ofByte, PduType.bits_ofBits]
  numbered := numbered

theorem encode_of_parse {pdu : Bytes} {header : PduHeader} (parsed : parse pdu = .ok header) :
    header.encode = pdu.take header.encodedLength := by
  unfold parse at parsed
  cases read : split pdu with
  | error error =>
    rw [read] at parsed
    cases parsed
  | ok found =>
    rw [read] at parsed
    cases parsed
    rw [← encode_append_of_split read, ← encode_length, List.take_left]

theorem split_of_short {pdu : Bytes} (short : pdu.length < 2) :
    split pdu = .error (.link (.shortRead pdu.length)) := by
  rcases pdu with _ | ⟨first, _ | ⟨second, rest⟩⟩
  · rfl
  · rfl
  · simp only [List.length_cons] at short
    omega

/-- Without a third octet only the type can tell whether that is enough. -/
theorem split_pair_eq_error_iff (first second : UInt8) (error : Error) :
    split [first, second] = .error error ↔ error = .link (.shortRead 2) ∧
      ∃ type, typeOf [first, second] = .ok type ∧ type.sequenced = true := by
  unfold split
  cases typed : typeOf [first, second] with
  | error other => cases typed
  | ok type =>
    simp only [bind, Except.bind, Except.ok.injEq, exists_eq_left']
    cases type.sequenced with
    | true => exact ⟨fun same => ⟨(Except.error.inj same).symm, rfl⟩, fun ⟨same, _⟩ => same ▸ rfl⟩
    | false => exact ⟨fun same => (nomatch same), fun ⟨_, same⟩ => (nomatch same)⟩

/-- Nothing but a lack of octets keeps a PDU from being read. -/
theorem split_eq_error_iff (pdu : Bytes) (error : Error) :
    split pdu = .error error ↔ error = .link (.shortRead pdu.length) ∧
      (pdu.length < 2 ∨ pdu.length = 2 ∧
        ∃ type, typeOf pdu = .ok type ∧ type.sequenced = true) := by
  rcases Nat.lt_trichotomy pdu.length 2 with short | two | long
  · rw [split_of_short short, Except.error.injEq]
    exact ⟨fun same => ⟨same.symm, .inl short⟩, fun ⟨same, _⟩ => same.symm⟩
  · obtain ⟨first, second, rfl⟩ : ∃ first second, pdu = [first, second] := by
      rcases pdu with _ | ⟨first, _ | ⟨second, _ | ⟨third, rest⟩⟩⟩ <;> simp_all
    rw [split_pair_eq_error_iff]
    simp
  · constructor
    · intro failed
      exact absurd failed (split_of_long long)
    · rintro ⟨-, short | ⟨two, -⟩⟩ <;> omega

theorem parse_eq_error_iff (pdu : Bytes) (error : Error) :
    parse pdu = .error error ↔ split pdu = .error error := by
  unfold parse
  cases split pdu with
  | error other => simp [Except.map]
  | ok found => simp [Except.map]

theorem type_sequenced_iff (type : PduType) :
    type.sequenced = true ↔ type = .information ∨ type = .receiveReady := by
  cases type <;> simp [PduType.sequenced]

/-- A header with a type read from four bits, and with numbers exactly when that type calls for
them, is read back from what it writes in front of any field, and so is its type. What is read
writes the octets that it was read from. Reading fails exactly on fewer than two octets and on two
of a type that calls for a third. -/
theorem parse_inverts_encode :
    (∀ (dsap ssap : Sap) (octet : UInt8) (numbers : Option (Seq × Seq)) (field : Bytes),
      numbers.isSome = (PduType.ofByte octet).sequenced →
        let header : PduHeader := ⟨dsap, PduType.ofByte octet, ssap, numbers⟩
        parse (header.encode ++ field) = .ok header ∧
          typeOf (header.encode ++ field) = .ok header.type) ∧
    (∀ pdu header, parse pdu = .ok header → header.encode = pdu.take header.encodedLength) ∧
    ∀ pdu error, parse pdu = .error error ↔ error = .link (.shortRead pdu.length) ∧
      (pdu.length < 2 ∨ pdu.length = 2 ∧
        (typeOf pdu = .ok .information ∨ typeOf pdu = .ok .receiveReady)) := by
  refine ⟨?_, fun pdu header => encode_of_parse, ?_⟩
  · intro dsap ssap octet numbers field numbered header
    have formed : header.WellFormed := wellFormed_of_coded rfl numbered
    exact ⟨parse_encode header field formed, typeOf_encode header field formed.coded⟩
  · intro pdu error
    rw [parse_eq_error_iff, split_eq_error_iff]
    have numbered : (∃ type, typeOf pdu = .ok type ∧ type.sequenced = true) ↔
        typeOf pdu = .ok .information ∨ typeOf pdu = .ok .receiveReady := by
      simp only [type_sequenced_iff, and_or_left, exists_or, exists_eq_right]
    rw [numbered]

/-- An information PDU whose field looks like a header, and a PDU of a reserved type. -/
theorem parse_inverts_encode_across_octets :
    let information : PduHeader := ⟨0x3F, .ofByte 0x0C, 0x20, some (15, 1)⟩
    let reserved : PduHeader := ⟨33, .ofByte 0x09, 17, none⟩
    information.numbers.isSome = information.type.sequenced ∧
      information.encode ++ [0x13, 0x20] = [0xFF, 0x20, 0xF1, 0x13, 0x20] ∧
      parse [0xFF, 0x20, 0xF1, 0x13, 0x20] = .ok information ∧
      parse [0x86, 0x51] = .ok reserved ∧ reserved.encode = [0x86, 0x51] ∧
      parse [0x13, 0x20] = .error (.link (.shortRead 2)) := by
  intro information reserved
  obtain ⟨readsBack, writesBack, refuses⟩ := parse_inverts_encode
  refine ⟨rfl, by decide, ?_, rfl, ?_, ?_⟩
  · exact (readsBack 0x3F 0x20 0x0C (some (15, 1)) [0x13, 0x20] rfl).1
  · exact writesBack [0x86, 0x51] reserved rfl
  · exact (refuses _ _).mpr ⟨rfl, .inr ⟨rfl, .inl rfl⟩⟩

end NfcLink.PduHeader
