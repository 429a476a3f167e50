import NfcLink.Proofs.Frame.Units
import NfcLink.Proofs.Handshake.Stream

/-!
# Frames with one wrong octet

The two checksums of a frame make its octets add up to `0xFF`, those of its head
alone and those of the whole. An octet that is put in the place of a different one
moves the sum, so that what is left is not a frame, and not the beginning of one
either: a wrong length octet does not pass for a head, and a head that is right
leads the reader to the end of the frame that was altered.
-/
namespace NfcLink

/-! ### Sums -/

namespace Checksum

theorem sum_singleton (octet : UInt8) : sum [octet] = octet := UInt8.zero_add octet

theorem sum_append (first second : Bytes) : sum (first ++ second) = sum first + sum second := by
  have shifted : second.foldl (· + ·) (sum first + 0) = sum first + sum second :=
    List.foldl_assoc ..
  rw [UInt8.add_zero] at shifted
  rw [← shifted, sum, List.foldl_append, sum]

theorem sum_cons (octet : UInt8) (data : Bytes) : sum (octet :: data) = octet + sum data := by
  rw [← List.singleton_append, sum_append, sum_singleton]

theorem sum_set (data : Bytes) (position : Nat) (octet : UInt8) (inside : position < data.length) :
    sum (data.set position octet) + data[position] = sum data + octet := by
  induction data generalizing position with
  | nil => cases inside
  | cons first rest ih =>
    cases position with
    | zero =>
      rw [List.set_cons_zero, sum_cons, sum_cons, List.getElem_cons_zero]
      grind
    | succ position =>
      have behind := ih position (Nat.lt_of_succ_lt_succ inside)
      rw [List.set_cons_succ, sum_cons, sum_cons, List.getElem_cons_succ]
      grind

theorem sum_set_ne (data : Bytes) (position : Nat) (octet : UInt8)
    (inside : position < data.length) (other : data[position] ≠ octet) :
    sum (data.set position octet) ≠ sum data := by
  intro same
  have moved := sum_set data position octet inside
  rw [same] at moved
  exact other (by grind)

end Checksum

namespace Frame

theorem sum_head (length : Nat) : Checksum.sum (head length) = 0xFF := by
  have opening : Checksum.sum start = 0xFF := rfl
  rw [head, Checksum.sum_append, opening, Checksum.sum_cons, Checksum.sum_singleton,
    Checksum.ofLength]
  grind

theorem sum_wire (frame : Frame) : Checksum.sum frame.wire = 0xFF := by
  rw [wire, tail, Checksum.sum_append, Checksum.sum_append, sum_head, Checksum.sum_cons,
    Checksum.sum_singleton, Checksum.ofData, closing]
  grind

/-! ### What an altered frame begins with -/

/-- A head with another octet in it is no head. -/
theorem head_set_ne (length declared position : Nat) (octet : UInt8)
    (inside : position < (head length).length) (differs : (head length)[position] ≠ octet) :
    (head length).set position octet ≠ head declared := by
  intro same
  have moved := Checksum.sum_set_ne _ _ _ inside differs
  rw [same, sum_head, sum_head] at moved
  exact moved rfl

/-- A stream that begins with an altered frame does not begin with a frame. -/
theorem not_prefix_altered {frame other : Frame} (fits : frame.Fits) (otherFits : other.Fits)
    {position : Nat} {octet : UInt8} (inside : position < frame.wire.length)
    (differs : frame.wire[position] ≠ octet) (rest : Bytes) :
    ¬ other.wire <+: frame.wire.set position octet ++ rest := by
  rintro ⟨left, same⟩
  by_cases early : position < (head frame.counted.length).length
  · -- The frame in front would have the altered head.
    have altered : (head frame.counted.length)[position] ≠ octet := by
      simpa only [wire, List.getElem_append_left early] using differs
    rw [wire, wire, List.set_append_left _ _ early, List.append_assoc, List.append_assoc] at same
    have heads := (List.append_inj same (by simp)).1
    exact head_set_ne _ _ _ _ early altered heads.symm
  · -- It would have the head that was left alone, so it would be the altered frame itself.
    have stands : head frame.counted.length <+: frame.wire.set position octet ++ rest := by
      rw [wire, List.set_append_right _ _ (Nat.le_of_not_lt early), List.append_assoc]
      exact List.prefix_append _ _
    have declared : declaredLength (frame.wire.set position octet ++ rest) =
        .ok frame.counted.length :=
      (declaredLength_eq_ok_iff _ _).mpr ⟨Nat.succ_pos _, fits, stands⟩
    have inFront := declaredLength_append left (declaredLength_wire other otherFits)
    rw [same] at inFront
    have counts := Except.ok.inj (inFront.symm.trans declared)
    have lengths : other.wire.length = (frame.wire.set position octet).length := by
      rw [List.length_set, wire_length, wire_length, counts]
    have moved := Checksum.sum_set_ne _ _ _ inside differs
    rw [← (List.append_inj same lengths).1, sum_wire, sum_wire] at moved
    exact moved rfl

theorem decode_altered {frame : Frame} (fits : frame.Fits) {position : Nat} {octet : UInt8}
    (inside : position < frame.wire.length) (differs : frame.wire[position] ≠ octet) :
    ∃ fault, decode (frame.wire.set position octet) = .error (.invalidFrame fault) := by
  rcases decode_cases (frame.wire.set position octet) with ⟨other, accepted⟩ | refused
  · obtain ⟨-, otherFits, same⟩ := (decode_eq_ok_iff _ _).mp accepted
    have begins := not_prefix_altered fits otherFits inside differs []
    rw [List.append_nil, same] at begins
    exact absurd (List.prefix_refl _) begins
  · exact refused

theorem wireUnit_wire {frame : Frame} (fits : frame.Fits) : WireUnit frame.wire :=
  .information ((encodeFrom_eq_ok_iff _ _ _).mpr ⟨fits, rfl⟩)

/-- What was cut off, and what has something behind it. -/
theorem decode_cut_or_extended {frame : Frame} (fits : frame.Fits) {bytes : Bytes}
    (other : bytes ≠ frame.wire) (related : bytes <+: frame.wire ∨ frame.wire <+: bytes) :
    ∃ fault, decode bytes = .error (.invalidFrame fault) := by
  rcases decode_cases bytes with ⟨found, accepted⟩ | refused
  · obtain ⟨-, foundFits, rfl⟩ := (decode_eq_ok_iff _ _).mp accepted
    rcases related with begins | begun
    · exact absurd ((wireUnit_wire foundFits).prefix_eq (wireUnit_wire fits) begins) other
    · exact absurd ((wireUnit_wire fits).prefix_eq (wireUnit_wire foundFits) begun).symm other
  · exact refused

end Frame

/-! ### What a reader makes of it -/

namespace StreamDevice

open NfcLink.Action Outcome Transport

variable {bench : Bench StreamDevice} {patience : Nat}

theorem takeResponse_ends (ready : bench.device.Ready) (command : UInt8)
    (timeoutMs capacity : Nat) :
    (takeResponse command timeoutMs capacity (patience + 1) bench).Ends fun _ after =>
      after.device.Ready := by
  have records : ∀ bench : Bench StreamDevice, bench.device.Ready →
      ∀ notice, (Host.record notice bench).device.Ready := fun _ holds _ => holds
  have waits : Stays (fun bench : Bench StreamDevice => bench.device.Ready) (patience + 1)
      (awaitReady timeoutMs) :=
    awaitReady_stays (fun _ holds => holds) (fun _ _ holds => ⟨holds.idle, holds.awake⟩) timeoutMs
  have receives : ∀ wanted, Stays (fun bench : Bench StreamDevice => bench.device.Ready)
      (patience + 1) (Transport.receive wanted timeoutMs) :=
    fun wanted => receive_stays (fun _ _ holds => ⟨holds.idle, holds.awake⟩) wanted timeoutMs
  exact takeResponse_stays records command timeoutMs capacity waits receives bench ready

/-- An altered frame is not a response, whatever comes behind it. -/
theorem takeResponse_altered {frame : Frame} (fits : frame.Fits) {position : Nat} {octet : UInt8}
    (inside : position < frame.wire.length) (differs : frame.wire[position] ≠ octet)
    {rest : Bytes} (ready : bench.device.Ready)
    (queue : bench.device.queue = frame.wire.set position octet ++ rest) (command : UInt8)
    (timeoutMs capacity : Nat) :
    (takeResponse command timeoutMs capacity (patience + 1) bench).Ends fun result _ =>
      ∃ error, result = .error error := by
  have ends : (takeResponse command timeoutMs capacity (patience + 1) bench).Ends _ :=
    takeResponse_ends ready command timeoutMs capacity
  cases outcome : takeResponse command timeoutMs capacity (patience + 1) bench with
  | done data after =>
    obtain ⟨taken, dataFits, -⟩ := takeResponse_eq_done ready outcome
    rw [Reply.response_of_fits command data dataFits, queue] at taken
    have answerFits : (Frame.answer command data).Fits := dataFits
    exact absurd ⟨_, taken.symm⟩ (Frame.not_prefix_altered fits answerFits inside differs rest)
  | failed error after => exact ⟨error, rfl⟩
  | waiting =>
    rw [outcome] at ends
    exact ends

end StreamDevice

/-- A frame decodes, and with any one octet replaced by another it does not, nor is it taken for
the response to a command. What is cut off a frame and what goes on behind it does not decode
either. -/
theorem Frame.one_wrong_octet_is_detected (identifier : UInt8) (payload : Bytes)
    (fits : payload.length ≤ 254) :
    ∃ bytes, Frame.encodeFrom identifier payload [] = .ok bytes ∧
      (identifier = 0xD4 ∨ identifier = 0xD5 →
        Frame.decode bytes = .ok ⟨identifier, payload⟩) ∧
      (∀ (position : Nat) (octet : UInt8) (inside : position < bytes.length),
        bytes[position] ≠ octet →
          (∃ fault, Frame.decode (bytes.set position octet) = .error (.invalidFrame fault)) ∧
          ∀ (command : UInt8) (timeoutMs capacity patience : Nat) (rest : Bytes)
            (bench : Bench StreamDevice), bench.device.Ready →
            bench.device.queue = bytes.set position octet ++ rest →
              (Transport.takeResponse command timeoutMs capacity (patience + 1) bench).Ends
                fun result _ => ∃ error, result = .error error) ∧
      ∀ other, other ≠ bytes → other <+: bytes ∨ bytes <+: other →
        ∃ fault, Frame.decode other = .error (.invalidFrame fault) := by
  have counted : Frame.Fits ⟨identifier, payload⟩ := Nat.succ_le_succ fits
  refine ⟨Frame.wire ⟨identifier, payload⟩, (Frame.encodeFrom_eq_ok_iff _ _ _).mpr ⟨counted, rfl⟩,
    ?_, ?_, ?_⟩
  · intro direction
    exact (Frame.decode_eq_ok_iff _ _).mpr ⟨direction, counted, rfl⟩
  · intro position octet inside differs
    refine ⟨Frame.decode_altered counted inside differs, ?_⟩
    intro command timeoutMs capacity patience rest bench ready queue
    exact StreamDevice.takeResponse_altered counted inside differs ready queue command timeoutMs
      capacity
  · intro other differs related
    exact Frame.decode_cut_or_extended counted differs related

/-- The length octet of a response is raised, and there is one octet more behind the frame. -/
theorem Frame.one_wrong_octet_is_detected_in_length :
    let altered : Bytes := [0x00, 0x00, 0xFF, 0x04, 0xFD, 0xD5, 0x03, 0x32, 0xF6, 0x00]
    let bench : Bench StreamDevice := { device := { queue := altered ++ [0x00] } }
    ([0x03, 0x32] : Bytes).length ≤ 254 ∧ bench.device.Ready ∧
      Frame.encodeFrom 0xD5 [0x03, 0x32] [] = .ok (altered.set 3 0x03) ∧
      (∃ fault, Frame.decode altered = .error (.invalidFrame fault)) ∧
      (Transport.takeResponse 0x02 100 255 1 bench).Ends fun result _ =>
        ∃ error, result = .error error := by
  intro altered bench
  have fits : ([0x03, 0x32] : Bytes).length ≤ 254 := by decide
  have ready : bench.device.Ready := ⟨rfl, rfl⟩
  obtain ⟨bytes, encoded, -, detected, -⟩ := Frame.one_wrong_octet_is_detected 0xD5 _ fits
  have written : bytes = altered.set 3 0x03 := Except.ok.inj (encoded.symm.trans (by decide))
  subst written
  have raised := detected 3 0x04 (by decide) (by decide)
  exact ⟨fits, ready, encoded, raised.1, raised.2 0x02 100 255 0 [0x00] bench ready rfl⟩

end NfcLink
