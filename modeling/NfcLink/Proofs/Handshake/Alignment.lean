import Mathlib.Data.List.Basic
import NfcLink.Proofs.Handshake.Overheard
import NfcLink.Proofs.Handshake.Stream

/-!
# Responses and the stream they come in

The reads of a response are sized by its head alone, and everything that is checked later is
checked on bytes that were already read. So a response that has an acceptable head and is
there to its end is taken off the stream whole, whatever is wrong inside, and the next read
starts at the byte behind it.
-/
namespace NfcLink

open NfcLink.Action Outcome

/-! ### What is checked after the reads -/

/-- What can be wrong with a response of the length that its head declares. -/
def FrameFault.AfterHead : FrameFault → Prop
  | identifier _ | dataChecksum _ _ | postamble | direction _ | noResponseCode => True
  | _ => False

theorem Frame.ofDeclared_error {bytes : Bytes} {length : Nat} {error : Error}
    (positive : 0 < length) (size : bytes.length = length + overhead)
    (refused : ofDeclared bytes length = .error error) :
    ∃ fault : FrameFault, error = .invalidFrame fault ∧ fault.AfterHead := by
  have middle : ((bytes.drop headLength).take length).length = length := by
    rw [List.length_take, List.length_drop, size, overhead, headLength]
    omega
  have final : (bytes.drop (headLength + length)).length = 2 := by
    rw [List.length_drop, size, overhead, headLength]
    omega
  unfold ofDeclared at refused
  split at refused
  · split at refused
    · cases refused
      exact ⟨_, rfl, True.intro⟩
    · split at refused
      · cases refused
        exact ⟨_, rfl, True.intro⟩
      · split at refused
        · cases refused
          exact ⟨_, rfl, True.intro⟩
        · cases refused
  next mismatched =>
    -- The bytes are as many as are declared, so they split into these parts.
    obtain ⟨identifier, payload, counted⟩ :=
      List.exists_cons_of_length_pos (Nat.lt_of_lt_of_eq positive middle.symm)
    obtain ⟨checksum, last, closed⟩ := List.length_eq_two.mp final
    exact (mismatched _ _ _ _ counted closed).elim

/-- A head is five octets, whatever comes after it. -/
theorem Frame.declaredLength_take {bytes : Bytes} {length : Nat}
    (declared : declaredLength bytes = .ok length) :
    declaredLength (bytes.take headLength) = .ok length := by
  obtain ⟨positive, within, begins⟩ := (declaredLength_eq_ok_iff bytes length).mp declared
  exact (declaredLength_eq_ok_iff _ length).mpr
    ⟨positive, within, List.prefix_take_iff.mpr ⟨begins, Nat.le_of_eq (head_length length)⟩⟩

namespace Transport

/-- What the bytes of a response come to, once they are read. -/
def judged (command : UInt8) (bytes : Bytes) : Except Error Bytes := do
  let frame ← Frame.decode bytes
  let payload ← frame.response
  responseData command payload

theorem judged_error {command : UInt8} {bytes : Bytes} {length : Nat} {error : Error}
    (declared : Frame.declaredLength bytes = .ok length)
    (size : bytes.length = length + Frame.overhead)
    (refused : judged command bytes = .error error) :
    (∃ fault : FrameFault, error = .invalidFrame fault ∧ fault.AfterHead) ∨
      ∃ code, error = .commandMismatch (command + 1) code := by
  have positive := ((Frame.declaredLength_eq_ok_iff bytes length).mp declared).1
  unfold judged Frame.decode at refused
  simp only [declared, bind, Except.bind] at refused
  cases judgement : Frame.ofDeclared bytes length with
  | error first =>
    rw [judgement] at refused
    cases refused
    exact .inl (Frame.ofDeclared_error positive size judgement)
  | ok frame =>
    simp only [judgement] at refused
    unfold Frame.response at refused
    by_cases sender : frame.identifier = Frame.fromController
    · simp only [if_pos sender] at refused
      unfold responseData at refused
      split at refused
      · split at refused
        · cases refused
        · cases refused
          exact .inr ⟨_, rfl⟩
      · cases refused
        exact .inl ⟨_, rfl, True.intro⟩
    · simp only [if_neg sender] at refused
      cases refused
      exact .inl ⟨_, rfl, True.intro⟩

section Rest

variable {σ : Type} [Host σ] [Transport σ]

omit [Host σ] [Transport σ] in
theorem ofExcept_judged (command : UInt8) (bytes : Bytes) :
    (Action.ofExcept (judged command bytes) : Action σ Bytes) = (do
      let frame ← Frame.decode bytes
      let payload ← frame.response
      responseData command payload) := by
  unfold judged
  cases Frame.decode bytes with
  | error error => rfl
  | ok frame =>
    change Action.ofExcept (frame.response >>= _) =
      ((liftM frame.response : Action σ Bytes) >>= _)
    cases frame.response with
    | error error => rfl
    | ok payload => rfl

/-- What is left of a response after its head was accepted. -/
def takeRest (command : UInt8) (timeoutMs length : Nat) (head : Bytes) : Action σ Bytes := do
  let rest ← receive (length + 2) timeoutMs
  note (.responseRead · (head ++ rest))
  Action.ofExcept (judged command (head ++ rest))

/-- What is left of a response after its head was read. -/
def takeAfter (command : UInt8) (timeoutMs capacity : Nat) (head : Bytes) : Action σ Bytes :=
  match Frame.declaredLength head with
  | .error error => do
    note (.headInvalid · head error)
    Action.fail error
  | .ok length =>
    if capacity < length - 2 then Action.fail (.noSpace (length - 2) capacity)
    else takeRest command timeoutMs length head

theorem takeResponse_eq (command : UInt8) (timeoutMs capacity : Nat) :
    (takeResponse command timeoutMs capacity : Action σ Bytes) = (do
      awaitReady timeoutMs
      let head ← receive Frame.headLength timeoutMs
      takeAfter command timeoutMs capacity head) := by
  unfold takeResponse takeAfter
  congr 1
  funext _
  congr 1
  funext head
  cases Frame.declaredLength head with
  | error error => rfl
  | ok length =>
    simp only [takeRest, ofExcept_judged]
    rfl

/-- One response after the other, whatever each of them comes to. -/
def takeEach (timeoutMs capacity : Nat) : List UInt8 → Action σ (List (Except Error Bytes))
  | [] => pure []
  | command :: later => do
    let result ← (takeResponse command timeoutMs capacity).attempt
    let results ← takeEach timeoutMs capacity later
    return result :: results

end Rest

end Transport

/-! ### The calls of a response -/

namespace Overheard

variable {heard : Overheard (Bench StreamDevice)} {patience timeoutMs wanted : Nat}

/-- After the poll that finds the controller ready. -/
def found (heard : Overheard (Bench StreamDevice)) : Overheard (Bench StreamDevice) where
  inner := { heard.inner with
    device := { heard.inner.device with polls := heard.inner.device.polls + 1 } }
  calls := heard.calls ++ [.polled (.ok true)]

/-- After a read of so many bytes that the stream had. -/
def served (wanted timeoutMs : Nat) (heard : Overheard (Bench StreamDevice)) :
    Overheard (Bench StreamDevice) where
  inner := { heard.inner with
    device := { heard.inner.device with queue := heard.inner.device.queue.drop wanted } }
  calls := heard.calls ++
    [.received wanted timeoutMs (.ok (heard.inner.device.queue.take wanted))]

/-- After a read of more bytes than the stream had. -/
def denied (wanted timeoutMs : Nat) (heard : Overheard (Bench StreamDevice)) :
    Overheard (Bench StreamDevice) :=
  { heard with calls := heard.calls ++ [.received wanted timeoutMs (.error .timeout)] }

theorem awaitReady_found (ready : heard.inner.device.Ready) :
    Transport.awaitReady timeoutMs (patience + 1) heard = .done () heard.found := by
  have polled : Transport.poll (patience + 1) heard = .done true heard.found :=
    call_of_done .polled (StreamDevice.poll_eq ready)
  obtain ⟨after, done, same⟩ := Transport.awaitReady_answers timeoutMs ⟨_, polled, rfl⟩
  rw [done, same]

theorem receive_served (enough : wanted ≤ heard.inner.device.queue.length) :
    Transport.receive wanted timeoutMs patience heard =
      .done (heard.inner.device.queue.take wanted) (heard.served wanted timeoutMs) :=
  call_of_done _ (StreamDevice.receive_of_enough wanted timeoutMs enough)

theorem receive_denied (short : heard.inner.device.queue.length < wanted) :
    Transport.receive wanted timeoutMs patience heard =
      .failed .timeout (heard.denied wanted timeoutMs) :=
  call_of_failed _ (StreamDevice.receive_of_short wanted timeoutMs short)

/-! ### What becomes of a response -/

variable {command : UInt8} {capacity length : Nat}

/-- After a poll and a read of the head. -/
def opened (timeoutMs : Nat) (heard : Overheard (Bench StreamDevice)) :
    Overheard (Bench StreamDevice) :=
  heard.found.served Frame.headLength timeoutMs

theorem takeResponse_of_silent (ready : heard.inner.device.Ready)
    (short : heard.inner.device.queue.length < Frame.headLength) :
    Transport.takeResponse command timeoutMs capacity (patience + 1) heard =
      .failed .timeout (heard.found.denied Frame.headLength timeoutMs) := by
  have head : Transport.receive Frame.headLength timeoutMs (patience + 1) heard.found = _ :=
    receive_denied short
  unfold Transport.takeResponse
  rw [bind_of_done (awaitReady_found ready), bind_of_failed head]

section Opened

variable (ready : heard.inner.device.Ready)
  (enough : Frame.headLength ≤ heard.inner.device.queue.length)
include ready enough

theorem takeResponse_opened :
    Transport.takeResponse command timeoutMs capacity (patience + 1) heard =
      Transport.takeAfter command timeoutMs capacity
        (heard.inner.device.queue.take Frame.headLength) (patience + 1)
        (heard.opened timeoutMs) := by
  have head : Transport.receive Frame.headLength timeoutMs (patience + 1) heard.found = _ :=
    receive_served enough
  rw [Transport.takeResponse_eq, bind_of_done (awaitReady_found ready), bind_of_done head]
  rfl

theorem takeResponse_of_bad_head {error : Error}
    (refused : Frame.declaredLength (heard.inner.device.queue.take Frame.headLength) =
      .error error) :
    Transport.takeResponse command timeoutMs capacity (patience + 1) heard =
      .failed error (Host.record
        (.headInvalid .simulated (heard.inner.device.queue.take Frame.headLength) error)
        (heard.opened timeoutMs)) := by
  rw [takeResponse_opened ready enough, Transport.takeAfter, refused]
  rfl

section Declared

variable (declared : Frame.declaredLength (heard.inner.device.queue.take Frame.headLength) =
  .ok length)
include declared

theorem takeResponse_of_no_space (narrow : capacity < length - 2) :
    Transport.takeResponse command timeoutMs capacity (patience + 1) heard =
      .failed (.noSpace (length - 2) capacity) (heard.opened timeoutMs) := by
  rw [takeResponse_opened ready enough, Transport.takeAfter, declared]
  simp only [if_pos narrow]
  rfl

section Roomy

variable (roomy : length - 2 ≤ capacity)
include roomy

theorem takeResponse_of_head :
    Transport.takeResponse command timeoutMs capacity (patience + 1) heard =
      Transport.takeRest command timeoutMs length
        (heard.inner.device.queue.take Frame.headLength) (patience + 1)
        (heard.opened timeoutMs) := by
  rw [takeResponse_opened ready enough, Transport.takeAfter, declared]
  simp only [if_neg (Nat.not_lt_of_ge roomy)]

theorem takeResponse_of_cut_off
    (short : heard.inner.device.queue.length < length + Frame.overhead) :
    Transport.takeResponse command timeoutMs capacity (patience + 1) heard =
      .failed .timeout ((heard.opened timeoutMs).denied (length + 2) timeoutMs) := by
  have left : (heard.opened timeoutMs).inner.device.queue.length < length + 2 := by
    change (heard.inner.device.queue.drop Frame.headLength).length < length + 2
    rw [List.length_drop]
    simp only [Frame.overhead, Frame.headLength] at short enough ⊢
    omega
  rw [takeResponse_of_head ready enough declared roomy]
  exact bind_of_failed (receive_denied left)

theorem takeResponse_of_whole
    (whole : length + Frame.overhead ≤ heard.inner.device.queue.length) :
    (Transport.takeResponse command timeoutMs capacity (patience + 1) heard).ended =
      some (Transport.judged command
          (heard.inner.device.queue.take (length + Frame.overhead)),
        Host.record (.responseRead .simulated
          (heard.inner.device.queue.take (length + Frame.overhead)))
          ((heard.opened timeoutMs).served (length + 2) timeoutMs)) := by
  have left : length + 2 ≤ (heard.opened timeoutMs).inner.device.queue.length := by
    change length + 2 ≤ (heard.inner.device.queue.drop Frame.headLength).length
    rw [List.length_drop]
    simp only [Frame.overhead, Frame.headLength] at whole ⊢
    omega
  have joined : heard.inner.device.queue.take Frame.headLength ++
      (heard.opened timeoutMs).inner.device.queue.take (length + 2) =
        heard.inner.device.queue.take (length + Frame.overhead) := by
    change _ ++ (heard.inner.device.queue.drop Frame.headLength).take (length + 2) = _
    rw [← List.take_add, Frame.overhead, Frame.headLength]
    congr 1
    omega
  rw [takeResponse_of_head ready enough declared roomy]
  unfold Transport.takeRest
  rw [bind_of_done (receive_served left), Transport.note_bind, joined]
  cases Transport.judged command (heard.inner.device.queue.take (length + Frame.overhead)) with
  | ok data => rfl
  | error error => rfl

end Roomy

end Declared

end Opened

/-- The reads of a response: that of the head, and that of as many bytes as an acceptable head
declares, if there is room for them. -/
inductive ResponseReads (timeoutMs capacity : Nat) : List TransportCall → Prop where
  | head (reading : Except Error Bytes) :
      ResponseReads timeoutMs capacity [.received Frame.headLength timeoutMs reading]
  | whole {head : Bytes} {length : Nat} (reading : Except Error Bytes) :
      Frame.declaredLength head = .ok length → length - 2 ≤ capacity →
      ResponseReads timeoutMs capacity
        [.received Frame.headLength timeoutMs (.ok head), .received (length + 2) timeoutMs reading]

/-- What is read for a response, and what a bad head or one that declares too much leaves. -/
structure Sparing (timeoutMs capacity : Nat) (before : Overheard (Bench StreamDevice))
    (result : Except Error Bytes) (after : Overheard (Bench StreamDevice)) : Prop where
  reads : ∃ reads, after.calls = before.calls ++ .polled (.ok true) :: reads ∧
    ResponseReads timeoutMs capacity reads
  badHead : ∀ error, Frame.headLength ≤ before.inner.device.queue.length →
    Frame.declaredLength (before.inner.device.queue.take Frame.headLength) = .error error →
    result = .error error ∧
      after.inner.device.queue = before.inner.device.queue.drop Frame.headLength
  narrow : ∀ length, Frame.headLength ≤ before.inner.device.queue.length →
    Frame.declaredLength (before.inner.device.queue.take Frame.headLength) = .ok length →
    capacity < length - 2 →
    result = .error (.noSpace (length - 2) capacity) ∧
      after.inner.device.queue = before.inner.device.queue.drop Frame.headLength
  noSpace : ∀ needed most, result = .error (.noSpace needed most) →
    Frame.headLength ≤ before.inner.device.queue.length ∧
      after.inner.device.queue = before.inner.device.queue.drop Frame.headLength

theorem sparing_of_roomy {before after : Overheard (Bench StreamDevice)}
    {result : Except Error Bytes} (reading : Except Error Bytes)
    (declared : Frame.declaredLength (before.inner.device.queue.take Frame.headLength) =
      .ok length) (roomy : length - 2 ≤ capacity)
    (reads : after.calls = before.calls ++ [.polled (.ok true),
      .received Frame.headLength timeoutMs
        (.ok (before.inner.device.queue.take Frame.headLength)),
      .received (length + 2) timeoutMs reading])
    (spacious : ∀ needed most, result ≠ .error (.noSpace needed most)) :
    Sparing timeoutMs capacity before result after where
  reads := ⟨_, reads, .whole reading declared roomy⟩
  badHead _ _ refused := by cases declared.symm.trans refused
  narrow _ _ other narrow := by
    cases declared.symm.trans other
    exact absurd narrow (Nat.not_lt_of_ge roomy)
  noSpace needed most refused := absurd refused (spacious needed most)

/-- A response as long as its head declares is refused for what is inside, if at all. -/
theorem judged_take_error {queue : Bytes} {error : Error}
    (declared : Frame.declaredLength (queue.take Frame.headLength) = .ok length)
    (whole : length + Frame.overhead ≤ queue.length)
    (refused : Transport.judged command (queue.take (length + Frame.overhead)) = .error error) :
    (∃ fault : FrameFault, error = .invalidFrame fault ∧ fault.AfterHead) ∨
      ∃ code, error = .commandMismatch (command + 1) code := by
  have begins : queue.take (length + Frame.overhead) = queue.take Frame.headLength ++
      (queue.drop Frame.headLength).take (length + 2) := by
    rw [← List.take_add, Frame.overhead, Nat.add_comm length, Nat.add_right_comm,
      Nat.add_assoc Frame.headLength]
  refine Transport.judged_error ?_ (List.length_take_of_le whole) refused
  rw [begins]
  exact Frame.declaredLength_append _ declared

theorem takeResponse_sparing (ready : heard.inner.device.Ready) :
    (Transport.takeResponse command timeoutMs capacity (patience + 1) heard).Ends
      (Sparing timeoutMs capacity heard) := by
  rcases Nat.lt_or_ge heard.inner.device.queue.length Frame.headLength with short | enough
  · rw [takeResponse_of_silent ready short]
    exact {
      reads := ⟨_, List.append_assoc _ _ _, .head _⟩
      badHead := fun _ enough => absurd short (Nat.not_lt_of_ge enough)
      narrow := fun _ enough => absurd short (Nat.not_lt_of_ge enough)
      noSpace := nofun }
  rcases Frame.declaredLength_cases (heard.inner.device.queue.take Frame.headLength) with
    ⟨length, declared⟩ | ⟨fault, refused⟩
  · rcases Nat.lt_or_ge capacity (length - 2) with narrow | roomy
    · rw [takeResponse_of_no_space ready enough declared narrow]
      exact {
        reads := ⟨_, List.append_assoc _ _ _, .head _⟩
        badHead := fun _ _ refused => by cases declared.symm.trans refused
        narrow := fun _ _ other _ => by
          cases declared.symm.trans other
          exact ⟨rfl, rfl⟩
        noSpace := fun _ _ _ => ⟨enough, rfl⟩ }
    rcases Nat.lt_or_ge heard.inner.device.queue.length (length + Frame.overhead) with
      short | whole
    · rw [takeResponse_of_cut_off ready enough declared roomy short]
      refine sparing_of_roomy (.error .timeout) declared roomy ?_ nofun
      simp only [denied, opened, served, found, List.append_assoc]
      rfl
    · refine (ends_iff ..).mpr ⟨_, _, takeResponse_of_whole ready enough declared roomy whole,
        sparing_of_roomy
          (.ok ((heard.inner.device.queue.drop Frame.headLength).take (length + 2)))
          declared roomy ?_ ?_⟩
      · simp only [opened, served, found, List.append_assoc]
        rfl
      · intro needed most refused
        rcases judged_take_error declared whole refused with ⟨_, other, -⟩ | ⟨_, other⟩
        · cases other
        · cases other
  · rw [takeResponse_of_bad_head ready enough refused]
    exact {
      reads := ⟨_, List.append_assoc _ _ _, .head _⟩
      badHead := fun _ _ other => by
        cases refused.symm.trans other
        exact ⟨rfl, rfl⟩
      narrow := fun _ _ declared => by cases refused.symm.trans declared
      noSpace := nofun }

/-- A response that is taken off the stream whole leaves it at the byte behind. -/
theorem takeResponse_aligned (command : UInt8) (timeoutMs patience : Nat)
    (ready : heard.inner.device.Ready)
    (declared : Frame.declaredLength (heard.inner.device.queue.take Frame.headLength) =
      .ok length) (roomy : length - 2 ≤ capacity)
    (whole : length + Frame.overhead ≤ heard.inner.device.queue.length) :
    (Transport.takeResponse command timeoutMs capacity (patience + 1) heard).Ends
      fun result after =>
        after.inner.device = { heard.inner.device with
          queue := heard.inner.device.queue.drop (length + Frame.overhead)
          polls := heard.inner.device.polls + 1 } ∧
        result = Transport.judged command
          (heard.inner.device.queue.take (length + Frame.overhead)) := by
  have enough : Frame.headLength ≤ heard.inner.device.queue.length := by
    simp only [Frame.overhead] at whole
    omega
  refine (ends_iff ..).mpr
    ⟨_, _, takeResponse_of_whole ready enough declared roomy whole, ?_, rfl⟩
  have left : (heard.inner.device.queue.drop Frame.headLength).drop (length + 2) =
      heard.inner.device.queue.drop (length + Frame.overhead) := by
    rw [List.drop_drop, Frame.overhead]
    congr 1
    omega
  rw [← left]
  rfl

/-! ### A stream of responses -/

/-- A response that is as long as it says, and not too long; the rest of it may be anything. -/
def Sized (capacity : Nat) (response : Bytes) : Prop :=
  ∃ length, Frame.declaredLength response = .ok length ∧ length - 2 ≤ capacity ∧
    response.length = length + Frame.overhead

/-- Induction on the responses that are still in the stream. -/
theorem takeEach_aligned (responses : List (UInt8 × Bytes)) (rest : Bytes)
    (sized : ∀ response ∈ responses, Sized capacity response.2)
    (ready : heard.inner.device.Ready)
    (queue : heard.inner.device.queue = responses.flatMap Prod.snd ++ rest) :
    (Transport.takeEach timeoutMs capacity (responses.map Prod.fst) (patience + 1)
      heard).Answers (responses.map fun (command, bytes) => Transport.judged command bytes)
        fun after => after.inner.device.Ready ∧ after.inner.device.queue = rest := by
  induction responses generalizing heard with
  | nil => exact answers_pure ⟨ready, queue⟩
  | cons response later ih =>
    obtain ⟨command, bytes⟩ := response
    obtain ⟨length, declared, roomy, size⟩ := sized _ List.mem_cons_self
    have front : heard.inner.device.queue = bytes ++ (later.flatMap Prod.snd ++ rest) := by
      rw [queue, List.flatMap_cons, List.append_assoc]
    have head : Frame.declaredLength (heard.inner.device.queue.take Frame.headLength) =
        .ok length := by
      rw [front]
      exact Frame.declaredLength_take (Frame.declaredLength_append _ declared)
    have whole : length + Frame.overhead ≤ heard.inner.device.queue.length := by
      rw [front, List.length_append, size]
      exact Nat.le_add_right _ _
    obtain ⟨result, after, ended, device, judged⟩ :=
      (ends_iff ..).mp (takeResponse_aligned command timeoutMs patience ready head roomy whole)
    rw [front, ← size, List.take_left] at judged
    rw [front, ← size, List.drop_left] at device
    have still : after.inner.device.Ready := by
      rw [device]
      exact ⟨ready.idle, ready.awake⟩
    have left : after.inner.device.queue = later.flatMap Prod.snd ++ rest := by rw [device]
    have first : (Transport.takeResponse command timeoutMs capacity).attempt (patience + 1) heard =
        .done result after := by
      apply ended_eq_ok_iff.mp
      rw [attempt_ended, ended]
      rfl
    obtain ⟨last, done, holds⟩ :=
      ih (fun response member => sized response (List.mem_cons_of_mem _ member)) still left
    subst judged
    exact ⟨last, (bind_of_done first).trans (bind_of_done done), holds⟩

/-- A response with an acceptable head takes as many bytes off the stream as it declares, whatever
it comes to, so that a stream of such responses is read one by one; and of any stream at all a
response reads a head and, if that is acceptable and what it declares has room, what it declares. -/
theorem takeResponse_keeps_alignment (heard : Overheard (Bench StreamDevice))
    (ready : heard.inner.device.Ready) (timeoutMs capacity patience : Nat) :
    (∀ (command : UInt8) length,
      Frame.declaredLength (heard.inner.device.queue.take 5) = .ok length →
      length - 2 ≤ capacity → length + 7 ≤ heard.inner.device.queue.length →
      (Transport.takeResponse command timeoutMs capacity (patience + 1) heard).Ends
        fun result after =>
          after.inner.device = { heard.inner.device with
            queue := heard.inner.device.queue.drop (length + 7)
            polls := heard.inner.device.polls + 1 } ∧
          ∀ error, result = .error error →
            (∃ fault : FrameFault, error = .invalidFrame fault ∧ fault.AfterHead) ∨
              ∃ code, error = .commandMismatch (command + 1) code) ∧
    (∀ (responses : List (UInt8 × Bytes)) rest,
      (∀ response ∈ responses, Sized capacity response.2) →
      heard.inner.device.queue = responses.flatMap Prod.snd ++ rest →
      (Transport.takeEach timeoutMs capacity (responses.map Prod.fst) (patience + 1)
        heard).Answers (responses.map fun (command, bytes) => Transport.judged command bytes)
          fun after => after.inner.device.Ready ∧ after.inner.device.queue = rest) ∧
    ∀ command : UInt8,
      (Transport.takeResponse command timeoutMs capacity (patience + 1) heard).Ends
        (Sparing timeoutMs capacity heard) := by
  refine ⟨?_, fun responses rest sized queue => takeEach_aligned responses rest sized ready queue,
    fun command => takeResponse_sparing ready⟩
  intro command length declared roomy whole
  apply (takeResponse_aligned command timeoutMs patience ready declared roomy whole).mono
  rintro _ after ⟨device, rfl⟩
  exact ⟨device, fun error refused => judged_take_error declared whole refused⟩

/-- A response with a wrong checksum, one with no response code and one of another command, and an
octet behind them that stays. -/
theorem takeResponse_keeps_alignment_past_faults :
    let garbled : Bytes := Frame.head 2 ++ [0xD5, 0x03, 0x00, 0x00]
    let shortest : Bytes := Frame.head 1 ++ [0xD5, 0x2B, 0x00]
    let other : Bytes := Reply.response 0x14 []
    let heard : Overheard (Bench StreamDevice) :=
      { inner := { device := { queue := garbled ++ shortest ++ other ++ [0x2A] } } }
    heard.inner.device.Ready ∧
      ∃ after, Transport.takeEach 100 0 [0x02, 0x02, 0x02] 1 heard =
        .done [.error (.invalidFrame (.dataChecksum 0x28 0x00)),
          .error (.invalidFrame .noResponseCode), .error (.commandMismatch 0x03 0x15)] after ∧
      after.inner.device.queue = [0x2A] := by
  intro garbled shortest other heard
  have ready : heard.inner.device.Ready := ⟨rfl, rfl⟩
  have sized : ∀ response ∈ [((0x02 : UInt8), garbled), (0x02, shortest), (0x02, other)],
      Sized 0 response.2 := by
    simp only [List.forall_mem_cons]
    exact ⟨⟨2, rfl, by decide, rfl⟩, ⟨1, rfl, by decide, rfl⟩, ⟨2, rfl, by decide, rfl⟩, nofun⟩
  obtain ⟨after, done, -, left⟩ :=
    (takeResponse_keeps_alignment heard ready 100 0 0).2.1 _ [0x2A] sized rfl
  exact ⟨ready, after, done, left⟩

end Overheard

end NfcLink
