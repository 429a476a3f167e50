import Mathlib.Data.List.Basic
import NfcLink.Proofs.Frame.Wire
import NfcLink.Proofs.Llcp.Header
import NfcLink.Proofs.Position.Reading
import NfcLink.Snep.Message
import NfcLink.Transport.Handshake

/-!
# Formats read by position

The frames, fields, headers and messages once more, taken apart by index and slice as a
driver of the controller does it. What guards a position often stands in another reader:
the head of a frame has a length octet above zero, so that the counted octets have a first
one. Every reader gives what its pattern-matching form gives, so no position is ever
missed.
-/
namespace NfcLink

open Reading

/-! ### Fields -/

namespace Bytes

def segmentByPosition (data : Bytes) (start length : Nat) : Reading Bytes := do
  requireLength data (start + length)
  data.slice? start (start + length)

def octetAtByPosition (data : Bytes) (index : Nat) : Reading UInt8 := do
  requireLength data (index + 1)
  data.octet? index

def wordAtByPosition (data : Bytes) (index : Nat) : Reading Nat := do
  let field ← segmentByPosition data index 4
  let a ← field.octet? 0
  let b ← field.octet? 1
  let c ← field.octet? 2
  let d ← field.octet? 3
  return fromBigEndian a b c d

def afterStatusByPosition (data : Bytes) : Reading Bytes := do
  let status ← octetAtByPosition data 0
  if status ≠ 0 then throw (.targetStatus status)
  else data.sliceFrom? 1

theorem requireLength_eq_ok_iff (data : Bytes) (least : Nat) :
    data.requireLength least = .ok () ↔ least ≤ data.length := by
  unfold requireLength
  split
  next short => exact ⟨fun same => (nomatch same), fun long => absurd short (Nat.not_lt_of_ge long)⟩
  next long => exact ⟨fun _ => Nat.le_of_not_lt long, fun _ => rfl⟩

theorem requireLength_of_lt {data : Bytes} {least : Nat} (short : data.length < least) :
    data.requireLength least = .error (.invalidLength least data.length) := if_pos short

theorem segment_gives (data : Bytes) (start length : Nat) :
    (data.segmentByPosition start length).Gives (data.segment start length) := by
  apply (gives_lift rfl).bind
  intro _ long
  have within := (requireLength_eq_ok_iff _ _).mp long
  have found := slice_of_le (Nat.le_add_right start length) within
  rw [Nat.add_sub_cancel_left] at found
  exact gives_access found

theorem octetAt_gives (data : Bytes) (index : Nat) :
    (data.octetAtByPosition index).Gives (data.octetAt index) := by
  unfold octetAtByPosition octetAt
  rcases Nat.lt_or_ge index data.length with inside | beyond
  · rw [List.drop_eq_getElem_cons inside]
    exact (gives_lift ((requireLength_eq_ok_iff _ _).mpr inside)).andThen
      (gives_access (List.getElem?_eq_getElem inside))
  · rw [List.drop_of_length_le beyond]
    exact (gives_lift (requireLength_of_lt (Nat.lt_succ_of_le beyond))).stop _

theorem exists_four {data : Bytes} (long : 4 ≤ data.length) :
    ∃ a b c d rest, data = a :: b :: c :: d :: rest := by
  match data, long with
  | a :: b :: c :: d :: rest, _ => exact ⟨a, b, c, d, rest, rfl⟩

theorem wordAt_gives (data : Bytes) (index : Nat) :
    (data.wordAtByPosition index).Gives (data.wordAt index) := by
  have field := segment_gives data index 4
  unfold segment at field
  unfold wordAtByPosition wordAt
  rcases Nat.lt_or_ge data.length (index + 4) with short | long
  · rw [requireLength_of_lt short] at field
    split
    next a b c d rest same =>
      have size := congrArg List.length same
      simp only [List.length_drop, List.length_cons] at size
      omega
    · exact field.stop _
  · rw [(requireLength_eq_ok_iff _ _).mpr long] at field
    obtain ⟨a, b, c, d, rest, same⟩ : ∃ a b c d rest, data.drop index = a :: b :: c :: d :: rest :=
      exists_four (by rw [List.length_drop]; omega)
    rw [same] at field ⊢
    exact field.andThen ((gives_access rfl).andThen ((gives_access rfl).andThen
      ((gives_access rfl).andThen ((gives_access rfl).andThen (gives_pure _)))))

theorem afterStatus_gives (data : Bytes) :
    data.afterStatusByPosition.Gives data.afterStatus := by
  have status := octetAt_gives data 0
  unfold afterStatusByPosition afterStatus
  cases data with
  | nil => exact status.stop _
  | cons octet rest =>
    apply status.andThen
    dsimp only
    by_cases success : octet = 0
    · rw [if_neg (Classical.not_not.mpr success), if_pos success]
      exact gives_access (sliceFrom_of_le (Nat.succ_le_succ (Nat.zero_le _)))
    · rw [if_pos success, if_neg success]
      exact gives_throw _

end Bytes

/-! ### Frames -/

namespace Frame

def encodeFromByPosition (identifier : UInt8) (header body : Bytes) : Reading Bytes :=
  let counted := header.length + body.length + 1
  if counted > maxCounted then throw (.invalidLength maxCounted counted)
  else do
    let length := UInt8.ofNat counted
    let out := start ++ [length, Checksum.ofLength length] ++ identifier :: (header ++ body)
    let data ← out.sliceFrom? headLength
    return out ++ [Checksum.ofData data, closing]

def declaredLengthByPosition (head : Bytes) : Reading Nat :=
  if head.length < headLength then throw (.invalidFrame (.truncatedHead head.length))
  else do
    let opening ← head.slice? 0 3
    if opening ≠ start then throw (.invalidFrame .preamble)
    else do
      let length ← head.octet? 3
      let checksum ← head.octet? 4
      if !Checksum.lengthMatches length checksum then
        throw (.invalidFrame (.lengthChecksum length checksum))
      else if length = 0 then throw (.invalidFrame .empty)
      else return length.toNat

/-- The counted octets of a frame with an accepted head. -/
def countedByPosition (frame : Bytes) (length : Nat) : Reading Bytes :=
  let required := overhead + length
  if frame.length ≠ required then
    throw (.invalidFrame (.lengthMismatch required frame.length))
  else do
    let counted ← frame.slice? headLength (headLength + length)
    let identifier ← counted.octet? 0
    if identifier ≠ fromHost ∧ identifier ≠ fromController then
      throw (.invalidFrame (.identifier identifier))
    else do
      let checksum ← frame.octet? (headLength + length)
      if !Checksum.dataMatches counted checksum then
        throw (.invalidFrame (.dataChecksum (Checksum.ofData counted) checksum))
      else do
        let final ← difference? required 1
        let last ← frame.octet? final
        if last ≠ closing then throw (.invalidFrame .postamble)
        else return counted

def decodeByPosition (frame : Bytes) : Reading Frame := do
  let length ← declaredLengthByPosition frame
  let counted ← countedByPosition frame length
  let identifier ← counted.octet? 0
  let payload ← counted.sliceFrom? 1
  return ⟨identifier, payload⟩

/-- An error of the frame leaves the buffer alone. -/
def fillByPosition (frame buffer : Bytes) : Option (Except Error Nat × Bytes) := do
  match ← (declaredLengthByPosition frame).run with
  | .error fault => return (.error fault, buffer)
  | .ok length => do
    let needed ← difference? length 1
    if needed > buffer.length then return (.error (.noSpace needed buffer.length), buffer)
    else
      match ← (countedByPosition frame length).run with
      | .error fault => return (.error fault, buffer)
      | .ok counted => do
        let stretch ← buffer.slice? 0 needed
        let payload ← counted.sliceFrom? 1
        let copied ← stretch.copyOver? payload
        return (.ok needed, copied ++ buffer.drop needed)

theorem encodeFrom_gives (identifier : UInt8) (header body : Bytes) :
    (encodeFromByPosition identifier header body).Gives (encodeFrom identifier header body) := by
  unfold encodeFromByPosition encodeFrom
  dsimp only
  split
  · exact gives_throw _
  · let length := UInt8.ofNat (header.length + body.length + 1)
    let front := start ++ [length, Checksum.ofLength length]
    have long : front.length ≤ (front ++ identifier :: (header ++ body)).length := by simp
    have behind := Bytes.sliceFrom_of_le long
    rw [List.drop_left] at behind
    exact (gives_access behind).andThen (gives_pure _)

theorem declaredLength_gives (head : Bytes) :
    (declaredLengthByPosition head).Gives (declaredLength head) := by
  unfold declaredLengthByPosition
  match head with
  | first :: second :: third :: length :: checksum :: rest =>
    have long : ¬ (first :: second :: third :: length :: checksum :: rest).length < headLength := by
      simp [headLength]
    have opening : Bytes.slice? (first :: second :: third :: length :: checksum :: rest) 0 3 =
        some [first, second, third] := Bytes.slice_front (by simp)
    rw [if_neg long, declaredLength]
    apply (gives_access opening).andThen
    split
    · exact gives_throw _
    · apply (gives_access rfl).andThen
      apply (gives_access rfl).andThen
      split
      · exact gives_throw _
      · split
        · exact gives_throw _
        · exact gives_pure _
  | [] => exact gives_throw _
  | [_] => exact gives_throw _
  | [_, _] => exact gives_throw _
  | [_, _, _] => exact gives_throw _
  | [_, _, _, _] => exact gives_throw _

theorem ofDeclared_of_other_length {frame : Bytes} {length : Nat}
    (other : frame.length ≠ overhead + length) :
    ofDeclared frame length =
      .error (.invalidFrame (.lengthMismatch (overhead + length) frame.length)) := by
  unfold ofDeclared
  split
  next final =>
    have size := congrArg List.length final
    simp only [List.length_drop, List.length_cons, List.length_nil, headLength] at size
    simp only [overhead, headLength] at other
    omega
  · rfl

/-- The counted octets and the two behind them. -/
theorem exists_octets_of_length {frame : Bytes} {length : Nat} (positive : 0 < length)
    (size : frame.length = overhead + length) :
    ∃ identifier payload checksum last,
      (frame.drop headLength).take length = identifier :: payload ∧
        frame.drop (headLength + length) = [checksum, last] := by
  have front : ((frame.drop headLength).take length).length = length := by
    simp only [List.length_take, List.length_drop, size, overhead, headLength]
    omega
  have behind : (frame.drop (headLength + length)).length = 2 := by
    simp only [List.length_drop, size, overhead, headLength]
    omega
  obtain ⟨identifier, payload, counted⟩ := List.exists_cons_of_length_pos (front ▸ positive)
  obtain ⟨checksum, last, final⟩ := List.length_eq_two.mp behind
  exact ⟨identifier, payload, checksum, last, counted, final⟩

/-- An accepted head declares one counted octet at least, so there is a first one. -/
theorem counted_gives {length : Nat} (positive : 0 < length) (frame : Bytes) :
    (countedByPosition frame length).Gives ((ofDeclared frame length).map counted) := by
  unfold countedByPosition
  dsimp only
  by_cases size : frame.length = overhead + length
  · obtain ⟨identifier, payload, checksum, last, middle, final⟩ :=
      exists_octets_of_length positive size
    have within : headLength + length ≤ frame.length := by
      rw [size, overhead]
      omega
    have found := Bytes.slice_of_le (Nat.le_add_right headLength length) within
    rw [Nat.add_sub_cancel_left, middle] at found
    -- The two octets behind the counted ones, looked up in the whole frame.
    have summed : frame.octet? (headLength + length) = some checksum := by
      rw [Bytes.octet?, ← Nat.add_zero (headLength + length), ← List.getElem?_drop, final]
      rfl
    have closed : frame.octet? (overhead + length - 1) = some last := by
      have behind : overhead + length - 1 = headLength + length + 1 := by
        rw [overhead]
        omega
      rw [Bytes.octet?, behind, ← List.getElem?_drop, final]
      rfl
    rw [if_neg (Classical.not_not.mpr size), ofDeclared, middle, final]
    apply (gives_access found).andThen
    apply (gives_access rfl).andThen
    dsimp only
    split
    · exact gives_throw _
    · apply (gives_access summed).andThen
      split
      · exact gives_throw _
      · apply (gives_access (difference_of_le (by rw [overhead]; omega))).andThen
        apply (gives_access closed).andThen
        split
        · exact gives_throw _
        · exact gives_pure _
  · rw [if_pos size, ofDeclared_of_other_length size]
    exact gives_throw _

theorem decode_gives (frame : Bytes) : (decodeByPosition frame).Gives (decode frame) := by
  apply (declaredLength_gives frame).bind
  intro length declared
  obtain ⟨positive, -, -⟩ := (declaredLength_eq_ok_iff frame length).mp declared
  have found := counted_gives positive frame
  cases decoded : ofDeclared frame length with
  | error fault =>
    rw [decoded] at found
    exact found.stop _
  | ok frame =>
    rw [decoded] at found
    apply found.andThen
    have payload : frame.counted.sliceFrom? 1 = some frame.payload :=
      Bytes.sliceFrom_of_le (Nat.succ_le_succ (Nat.zero_le _))
    exact (gives_access rfl).andThen ((gives_access payload).andThen (gives_pure _))

/-- The payload is copied over a stretch of its own length. -/
theorem fillByPosition_eq (frame buffer : Bytes) :
    fillByPosition frame buffer = some (fill frame buffer) := by
  unfold fillByPosition fill
  rw [found_bind (declaredLength_gives frame)]
  cases declared : declaredLength frame with
  | error fault => rfl
  | ok length =>
    obtain ⟨positive, -, -⟩ := (declaredLength_eq_ok_iff frame length).mp declared
    dsimp only
    rw [found_bind (difference_of_le positive)]
    split
    · rfl
    next roomy =>
      rw [found_bind (counted_gives positive frame)]
      cases decoded : ofDeclared frame length with
      | error fault => rfl
      | ok frame =>
        obtain ⟨-, rfl, -⟩ := (ofDeclared_eq_ok_iff _ _ _).mp decoded
        -- The difference that was checked against the buffer is the length of the payload.
        have needed : frame.counted.length - 1 = frame.payload.length := Nat.add_sub_cancel ..
        rw [needed] at roomy
        have within : frame.payload.length ≤ buffer.length := Nat.le_of_not_lt roomy
        have payload : frame.counted.sliceFrom? 1 = some frame.payload :=
          Bytes.sliceFrom_of_le (Nat.succ_le_succ (Nat.zero_le _))
        have copied : Bytes.copyOver? (buffer.take frame.payload.length) frame.payload =
            some frame.payload := Bytes.copyOver_of_eq (List.length_take_of_le within)
        change (buffer.slice? 0 frame.payload.length >>= _) = _
        rw [found_bind (Bytes.slice_front within), found_bind payload, found_bind copied]
        rfl

end Frame

/-- A response opens with its code. -/
def Transport.responseDataByPosition (command : UInt8) (payload : Bytes) : Reading Bytes :=
  match payload.head? with
  | some code =>
    if code = command + 1 then payload.sliceFrom? 1
    else throw (.commandMismatch (command + 1) code)
  | none => throw (.invalidFrame .noResponseCode)

theorem Transport.responseData_gives (command : UInt8) (payload : Bytes) :
    (responseDataByPosition command payload).Gives (responseData command payload) := by
  cases payload with
  | nil => exact gives_throw _
  | cons code data =>
    unfold responseDataByPosition responseData
    dsimp only [List.head?_cons]
    split
    · exact gives_access (Bytes.sliceFrom_of_le (Nat.succ_le_succ (Nat.zero_le _)))
    · exact gives_throw _

/-! ### PDU headers -/

namespace PduHeader

/-- The octet of the numbers may be absent, and that is an error. -/
def parseByPosition (pdu : Bytes) : Reading PduHeader := do
  let type ← typeOf pdu
  let first ← pdu.octet? 0
  let second ← pdu.octet? 1
  let header : PduHeader :=
    ⟨Fin.ofNat 64 (first.toNat / 4), type, Fin.ofNat 64 second.toNat, none⟩
  if type.sequenced then
    match pdu.octet? 2 with
    | some numbers =>
      return header.withNumbers (Fin.ofNat 16 (numbers.toNat / 16)) (.ofByte numbers)
    | none => throw (.link (.shortRead pdu.length))
  else return header

theorem parse_gives (pdu : Bytes) : (parseByPosition pdu).Gives (parse pdu) := by
  unfold parseByPosition parse split
  rcases pdu with _ | ⟨first, _ | ⟨second, rest⟩⟩
  · exact (gives_lift rfl).stop _
  · exact (gives_lift rfl).stop _
  · apply (gives_lift rfl).andThen
    apply (gives_access rfl).andThen
    apply (gives_access rfl).andThen
    simp only [typeOf, bind, Except.bind]
    split
    · cases rest with
      | nil => exact gives_throw _
      | cons numbers field => exact gives_pure _
    · exact gives_pure _

/-- The octets behind a header that was read. -/
theorem field_of_split {pdu : Bytes} {header : PduHeader} {field : Bytes}
    (read : split pdu = .ok (header, field)) :
    pdu.sliceFrom? header.encodedLength = some field := by
  rw [← encode_append_of_split read, ← encode_length,
    Bytes.sliceFrom_of_le (by rw [List.length_append]; exact Nat.le_add_right ..), List.drop_left]

end PduHeader

/-! ### Exchange messages -/

namespace Snep

def expectSuccessByPosition (response : Bytes) : Reading Unit := do
  response.requireLength headerLength
  let octet ← response.octet? 0
  expectVersion octet
  let code ← response.octet? 1
  expectCode success code

/-- The object of a request whose header is known to be there. -/
def objectByPosition (request : Bytes) : Reading Bytes := do
  let octet ← request.octet? 0
  expectVersion octet
  let code ← request.octet? 1
  expectCode putRequest code
  let length ← request.wordAtByPosition 2
  let remaining ← difference? request.length headerLength
  if length > remaining then throw (.payloadTooLarge length remaining)
  else request.slice? headerLength (headerLength + length)

theorem expectSuccess_gives (response : Bytes) :
    (expectSuccessByPosition response).Gives (expectSuccess response) := by
  apply (gives_lift rfl).bind
  intro _ long
  have within := (Bytes.requireLength_eq_ok_iff _ _).mp long
  match response, within with
  | octet :: code :: rest, _ =>
    apply (gives_access rfl).andThen
    apply (gives_lift rfl).bind
    intro _ _
    exact (gives_access rfl).andThen (gives_lift rfl)

theorem object_of_short {request : Bytes} (short : request.length < headerLength) :
    object request = .error (.invalidLength headerLength request.length) := by
  unfold object
  split
  next octet code a b c d field =>
    exact absurd short (Nat.not_lt_of_ge (Nat.le_add_left headerLength field.length))
  · rfl

theorem object_gives {request : Bytes} (long : headerLength ≤ request.length) :
    (objectByPosition request).Gives (object request) := by
  match request, long with
  | octet :: code :: a :: b :: c :: d :: field, _ =>
    have word := Bytes.wordAt_gives (octet :: code :: a :: b :: c :: d :: field) 2
    apply (gives_access rfl).andThen
    apply (gives_lift rfl).bind
    intro _ _
    apply (gives_access rfl).andThen
    apply (gives_lift rfl).bind
    intro _ _
    apply word.andThen
    have remaining : difference? (octet :: code :: a :: b :: c :: d :: field).length headerLength =
        some field.length := difference_of_le (Nat.le_add_left _ _)
    apply (gives_access remaining).andThen
    dsimp only
    split
    · exact gives_throw _
    next fits =>
      have within : headerLength + Bytes.fromBigEndian a b c d ≤
          (octet :: code :: a :: b :: c :: d :: field).length := by
        simp only [List.length_cons, headerLength]
        omega
      have found := Bytes.slice_of_le (Nat.le_add_right _ _) within
      rw [Nat.add_sub_cancel_left] at found
      exact gives_access found

end Snep

end NfcLink
