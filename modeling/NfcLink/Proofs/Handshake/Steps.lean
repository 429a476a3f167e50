import NfcLink.Channel
import NfcLink.Proofs.Frame.Wire
import NfcLink.Proofs.Outcome
import NfcLink.Sim.Reply

/-!
# Steps of the handshake

What a successful command or response must have seen on the transport, for any
transport at all, and which properties of its state the handshake keeps however
it ends.
-/
namespace NfcLink

theorem Ack.expect_eq_ok_iff (bytes : Bytes) : Ack.expect bytes = .ok () ↔ bytes = Ack.frame := by
  by_cases same : bytes = Ack.frame
  · simp [Ack.expect, Ack.accepts, same]
  · simp [Ack.expect, Ack.accepts, same]

/-- The frame that puts a command. -/
def Frame.command (header body : Bytes) : Frame := ⟨Frame.fromHost, header ++ body⟩

/-- The frame that answers one. -/
def Frame.answer (command : UInt8) (data : Bytes) : Frame :=
  ⟨Frame.fromController, (command + 1) :: data⟩

theorem Frame.encode_of_fits (header body : Bytes)
    (fits : header.length + body.length < Frame.maxCounted) :
    Frame.encode header body = .ok (Frame.command header body).wire :=
  Frame.encodeFrom_of_fits Frame.fromHost header body fits

theorem Frame.decode_command {header body : Bytes} (fits : (Frame.command header body).Fits) :
    Frame.decode (Frame.command header body).wire = .ok (Frame.command header body) :=
  (Frame.decode_eq_ok_iff _ _).mpr ⟨.inl rfl, fits, rfl⟩

theorem Reply.response_of_fits (command : UInt8) (data : Bytes)
    (fits : data.length + 2 ≤ Frame.maxCounted) :
    Reply.response command data = (Frame.answer command data).wire := by
  have whole : data.take (Frame.maxCounted - 2) = data :=
    List.take_of_length_le (Nat.le_sub_of_add_le fits)
  have within : [command + 1].length + data.length < Frame.maxCounted := by
    simp only [List.length_singleton]
    omega
  simp only [Reply.response, whole, Frame.encodeFrom_of_fits _ _ _ within]
  rfl

namespace Transport

open NfcLink.Action Outcome

variable {σ α : Type} [Host σ] [Transport σ] {patience : Nat} {state : σ}

theorem note_bind (notice : BusKind → Notice) (next : Unit → Action σ α) :
    (Transport.note notice >>= next) patience state =
      next () patience (Host.record (notice (kind state)) state) := rfl

theorem awaitReady_answers {post : σ → Prop} (budgetMs : Nat)
    (ready : (poll (patience + 1) state).Answers true post) :
    (awaitReady budgetMs (patience + 1) state).Answers () post := by
  unfold awaitReady
  split
  · rw [patience_bind]
    exact answers_bind ready fun _ holds => answers_pure holds
  · cases budgetMs with
    | zero => exact answers_bind ready fun _ holds => answers_pure holds
    | succ left => exact answers_bind ready fun _ holds => answers_pure holds

/-! ### What success tells -/

theorem responseData_eq_ok_iff (command : UInt8) (payload data : Bytes) :
    responseData command payload = .ok data ↔ payload = (command + 1) :: data := by
  cases payload with
  | nil => simp [responseData]
  | cons code rest =>
    by_cases same : code = command + 1
    · simp [responseData, same]
    · simp [responseData, same]

theorem response_eq_ok_iff (frame : Frame) (payload : Bytes) :
    frame.response = .ok payload ↔ frame = ⟨Frame.fromController, payload⟩ := by
  obtain ⟨identifier, found⟩ := frame
  by_cases same : identifier = Frame.fromController
  · simp [Frame.response, same]
  · simp [Frame.response, same]

theorem putCommand_eq_done {header body : Bytes} {after : σ}
    (done : putCommand header body patience state = .done () after) :
    ∃ frame sent ready read,
      Frame.encode header body = .ok frame ∧
      send frame patience (Host.record (.commandWritten (kind state) frame) state) =
        .done () sent ∧
      awaitReady (ackBudgetMs sent) patience sent = .done () ready ∧
      receive Ack.frame.length (ackBudgetMs sent) patience ready = .done Ack.frame read ∧
      after = Host.record (.ackRead (kind read) Ack.frame) read := by
  unfold putCommand at done
  cases encoded : Frame.encode header body with
  | error error =>
    rw [encoded] at done
    cases done
  | ok frame =>
    rw [encoded, lift_ok_bind, note_bind, bind_eq_done_iff] at done
    obtain ⟨_, sent, wrote, done⟩ := done
    rw [get_bind, bind_eq_done_iff] at done
    obtain ⟨_, ready, waited, done⟩ := done
    rw [onFailure_eq_done_iff] at waited
    obtain ⟨ack, read, received, done⟩ := (bind_eq_done_iff ..).mp done
    rw [note_bind, onFailure_eq_done_iff, ofExcept_eq_done_iff] at done
    obtain ⟨accepted, same⟩ := done
    rw [(Ack.expect_eq_ok_iff ack).mp accepted] at received same
    exact ⟨frame, sent, ready, read, rfl, wrote, waited, received, same.symm⟩

theorem takeResponse_eq_done {command : UInt8} {timeoutMs capacity : Nat} {data : Bytes} {after : σ}
    (done : takeResponse command timeoutMs capacity patience state = .done data after) :
    ∃ ready begun read head rest,
      awaitReady timeoutMs patience state = .done () ready ∧
      receive Frame.headLength timeoutMs patience ready = .done head begun ∧
      receive (data.length + 4) timeoutMs patience begun = .done rest read ∧
      after = Host.record (.responseRead (kind read) (head ++ rest)) read ∧
      head ++ rest = (Frame.answer command data).wire ∧
      (Frame.answer command data).Fits ∧ data.length ≤ capacity := by
  unfold takeResponse at done
  obtain ⟨_, ready, waited, done⟩ := (bind_eq_done_iff ..).mp done
  obtain ⟨head, begun, headRead, done⟩ := (bind_eq_done_iff ..).mp done
  obtain ⟨length, judged, lifted, done⟩ := (bind_eq_done_iff ..).mp done
  rw [onFailure_eq_done_iff, ofExcept_eq_done_iff] at lifted
  obtain ⟨declared, rfl⟩ := lifted
  split at done
  · cases done
  next roomy =>
    obtain ⟨rest, read, restRead, done⟩ := (bind_eq_done_iff ..).mp done
    rw [note_bind, bind_eq_done_iff] at done
    obtain ⟨frame, _, lifted, done⟩ := done
    obtain ⟨decoded, rfl⟩ := (ofExcept_eq_done_iff ..).mp lifted
    obtain ⟨payload, _, lifted, done⟩ := (bind_eq_done_iff ..).mp done
    obtain ⟨directed, rfl⟩ := (ofExcept_eq_done_iff ..).mp lifted
    obtain ⟨answered, same⟩ := (ofExcept_eq_done_iff ..).mp done
    -- The checks on direction and code leave one frame that can have been read.
    have named : frame = Frame.answer command data := by
      rw [(response_eq_ok_iff frame payload).mp directed,
        (responseData_eq_ok_iff command payload data).mp answered, Frame.answer]
    obtain ⟨-, fits, whole⟩ := (Frame.decode_eq_ok_iff _ _).mp decoded
    -- The head alone and the whole frame declare the same length.
    have size : length = data.length + 2 := by
      have long := Frame.declaredLength_append rest declared
      rw [whole, Frame.declaredLength_wire frame fits, named] at long
      exact (Except.ok.inj long).symm
    subst size
    rw [named] at fits whole
    exact ⟨ready, begun, read, head, rest, waited, headRead, restRead, same.symm, whole, fits,
      by omega⟩

/-! ### What the handshake keeps -/

section Invariant

variable {invariant : σ → Prop}
  (records : ∀ state, invariant state → ∀ notice, invariant (Host.record notice state))
include records

theorem note_stays (notice : BusKind → Notice) :
    Stays invariant patience (Transport.note notice) :=
  fun state holds => records state holds _

theorem takeResponse_stays (command : UInt8) (timeoutMs capacity : Nat)
    (waits : Stays invariant patience (awaitReady timeoutMs))
    (receives : ∀ wanted, Stays invariant patience (receive wanted timeoutMs)) :
    Stays invariant patience (takeResponse command timeoutMs capacity : Action σ Bytes) := by
  unfold takeResponse
  apply stays_bind waits
  intro _
  apply stays_bind (receives _)
  intro head
  apply stays_bind (stays_onFailure (stays_ofExcept _) fun error => note_stays records _)
  intro length
  apply stays_ite (stays_fail _)
  apply stays_bind (receives _)
  intro rest
  apply stays_bind (note_stays records _)
  intro _
  apply stays_bind (stays_ofExcept _)
  intro frame
  exact stays_bind (stays_ofExcept _) fun payload => stays_ofExcept _

/-- Once the frame is out, the rest of a command keeps what the write established. -/
theorem putCommand_ends {header body frame : Bytes} (encoded : Frame.encode header body = .ok frame)
    (sends : (send frame patience
      (Host.record (.commandWritten (kind state) frame) state)).Answers () invariant)
    (waits : ∀ budgetMs, Stays invariant patience (awaitReady budgetMs))
    (receives : ∀ wanted timeoutMs, Stays invariant patience (receive wanted timeoutMs)) :
    (putCommand header body patience state).Ends fun _ after => invariant after := by
  unfold putCommand
  obtain ⟨sent, wrote, holds⟩ := sends
  rw [encoded, lift_ok_bind, note_bind, bind_apply, wrote]
  simp only [get_bind]
  refine stays_bind (stays_onFailure (waits _) fun _ => note_stays records _) (fun _ => ?_) sent
    holds
  apply stays_bind (receives _ _)
  intro ack
  apply stays_bind (note_stays records _)
  intro _
  exact stays_onFailure (stays_ofExcept _) fun _ => note_stays records _

end Invariant

/-- A command and its response. -/
def exchange (command : UInt8) (header body : Bytes) (timeoutMs capacity : Nat) :
    Action σ Bytes := do
  putCommand (command :: header) body
  takeResponse command timeoutMs capacity

end Transport

namespace Channel

variable {σ : Type} [Host σ] [Transport σ] {patience : Nat}

theorem put_eq (channel : Channel σ) (command : UInt8) (header body : Bytes) :
    Channel.put (command :: header) body patience channel =
      (Transport.putCommand (command :: header) body).on transportPart patience
        { channel with lastCode := some command } := rfl

/-- The code that a response is held against is that of the command just put. -/
theorem askWithin_eq (channel : Channel σ) (command : UInt8) (header body : Bytes)
    (timeoutMs : Nat) :
    Channel.askWithin (command :: header) body timeoutMs patience channel =
      (Transport.exchange command header body timeoutMs channel.settings.capacity).on transportPart
        patience { channel with lastCode := some command } := by
  unfold Channel.askWithin Transport.exchange
  rw [Action.bind_apply, put_eq]
  simp only [Action.on, Action.bind_apply, transportPart]
  cases Transport.putCommand (command :: header) body patience channel.transport with
  | done answer transport => rfl
  | failed error transport => rfl
  | waiting => rfl

theorem ask_eq (channel : Channel σ) (command : UInt8) (header body : Bytes) :
    Channel.ask (command :: header) body patience channel =
      (Transport.exchange command header body channel.settings.timeoutMs
        channel.settings.capacity).on transportPart patience
          { channel with lastCode := some command } :=
  askWithin_eq channel command header body channel.settings.timeoutMs

end Channel

end NfcLink
