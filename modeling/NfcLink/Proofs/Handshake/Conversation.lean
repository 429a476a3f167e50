import NfcLink.Proofs.Handshake.Steps

/-!
# Conversations with a simulated controller

What a transport and the simulated controller behind it owe to a command channel,
whatever the bus is: a command written to it brings out the reply that was set up,
a poll then finds the next frame, and reading that frame in pieces answers its bytes
in order. From this alone an exchange gives back the data that the reply carries and
leaves the transport as it was before, one command later.
-/
namespace NfcLink

/-- The states of a transport in the course of a conversation. -/
structure Conversation (σ : Type) [Host σ] [Transport σ] where
  /-- Sets up the reply to the next command. -/
  rehearse : UInt8 → Bytes → σ → σ
  /-- The controller took these commands, and the next one brings out these frames. -/
  primed : (heard reply : List Bytes) → σ → Prop
  /-- The controller took these commands, and these frames are there to be read. -/
  offers : (heard frames : List Bytes) → σ → Prop
  /-- The first frame was found and some of it handed on already. -/
  reading : (heard : List Bytes) → (handed left : Bytes) → (later : List Bytes) → σ → Prop
  primes : ∀ {heard state}, offers heard [] state → ∀ command data,
    primed heard [Ack.frame, Reply.response command data] (rehearse command data state)
  record_primed : ∀ {heard reply state}, primed heard reply state → ∀ notice,
    primed heard reply (Host.record notice state)
  record_offers : ∀ {heard frames state}, offers heard frames state → ∀ notice,
    offers heard frames (Host.record notice state)
  send : ∀ {heard reply state}, primed heard reply state → ∀ header body patience,
    (Frame.command header body).Fits →
    (Transport.send (Frame.command header body).wire patience state).Answers ()
      (offers (heard ++ [(Frame.command header body).wire]) reply)
  poll : ∀ {heard frame later state}, offers heard (frame :: later) state → frame ≠ [] →
    ∀ patience, (Transport.poll patience state).Answers true (reading heard [] frame later)
  /-- A piece that is not the last. -/
  piece : ∀ {heard handed piece left later state},
    reading heard handed (piece ++ left) later state → left ≠ [] → ∀ timeoutMs patience,
    (Transport.receive piece.length timeoutMs (patience + 1) state).Answers piece
      (reading heard (handed ++ piece) left later)
  final : ∀ {heard handed piece later state}, reading heard handed piece later state →
    ∀ timeoutMs patience,
    (Transport.receive piece.length timeoutMs (patience + 1) state).Answers piece
      (offers heard later)

namespace Conversation

open Transport

variable {σ : Type} [Host σ] [Transport σ] (talk : Conversation σ)
variable {heard later : List Bytes} {patience : Nat}

theorem putCommand_answers {state : σ} (header body : Bytes)
    (fits : header.length + body.length < Frame.maxCounted)
    (primed : talk.primed heard (Ack.frame :: later) state) :
    (putCommand header body (patience + 1) state).Answers ()
      (talk.offers (heard ++ [(Frame.command header body).wire]) later) := by
  -- The length octet counts the identifier too, hence the strict bound.
  have counted : (Frame.command header body).Fits := by
    simp only [Frame.Fits, Frame.counted, Frame.command, List.length_cons, List.length_append]
    omega
  unfold putCommand
  rw [Frame.encode_of_fits header body fits, Action.lift_ok_bind, Transport.note_bind]
  apply Action.answers_bind
    (talk.send (talk.record_primed primed _) header body (patience + 1) counted)
  intro sent offered
  rw [Action.get_bind]
  apply Action.answers_bind (Action.answers_onFailure
    (awaitReady_answers _ (talk.poll offered (by decide) (patience + 1))))
  intro found reading
  apply Action.answers_bind (talk.final reading _ patience)
  intro read offered
  rw [Transport.note_bind]
  exact Action.answers_onFailure (Action.answers_pure (talk.record_offers offered _))

/-- A response with too much data is left where its head ends. -/
theorem takeResponse_ends {state : σ} (command replied : UInt8) (data : Bytes)
    (timeoutMs capacity : Nat) (fits : data.length + 2 ≤ Frame.maxCounted)
    (offered : talk.offers heard (Reply.response replied data :: later) state) :
    (takeResponse command timeoutMs capacity (patience + 1) state).Ends fun result after =>
      (data.length ≤ capacity ∧ result = responseData command ((replied + 1) :: data) ∧
        talk.offers heard later after) ∨
      (capacity < data.length ∧ result = .error (.noSpace data.length capacity) ∧
        talk.reading heard (Frame.head (data.length + 2)) (Frame.answer replied data).tail later
          after) := by
  let frame := Frame.answer replied data
  have size : frame.counted.length = data.length + 2 := rfl
  have counted : frame.Fits := by
    rw [Frame.Fits, size]
    exact fits
  rw [Reply.response_of_fits replied data fits] at offered
  have declared : Frame.declaredLength (Frame.head frame.counted.length) =
      .ok frame.counted.length :=
    (Frame.declaredLength_eq_ok_iff _ _).mpr
      ⟨Nat.succ_pos _, counted, List.prefix_refl _⟩
  have decoded : Frame.decode frame.wire = .ok frame :=
    (Frame.decode_eq_ok_iff _ _).mpr ⟨.inr rfl, counted, rfl⟩
  have tailLength : frame.tail.length = frame.counted.length + 2 := frame.tail_length
  unfold takeResponse
  apply Action.ends_of_answers
    (awaitReady_answers _ (talk.poll offered (by simp [Frame.wire, Frame.head, Frame.start]) _))
  intro found reading
  -- The head is a piece that leaves the tail behind, and the tail is the final one.
  have pieces : talk.reading heard [] (Frame.head frame.counted.length ++ frame.tail) later found :=
    reading
  apply Action.ends_of_answers (talk.piece pieces (by simp [Frame.tail]) timeoutMs patience)
  intro begun reading
  rw [declared]
  apply Action.ends_of_answers (Action.answers_onFailure (Action.answers_pure reading))
  intro judged reading
  -- The declared length counts the identifier and the code besides the data.
  have needed : frame.counted.length - 2 = data.length := by
    rw [size, Nat.add_sub_cancel]
  simp only [needed]
  split
  next exceeds => exact .inr ⟨exceeds, rfl, reading⟩
  next roomy =>
    have rest := talk.final reading timeoutMs patience
    rw [tailLength] at rest
    apply Action.ends_of_answers rest
    intro read offered
    have whole : Frame.head frame.counted.length ++ frame.tail = frame.wire := rfl
    have directed : frame.response = .ok frame.payload := rfl
    rw [Transport.note_bind, whole, decoded, Action.lift_ok_bind, directed, Action.lift_ok_bind]
    have within := Nat.le_of_not_gt roomy
    have kept := talk.record_offers offered (.responseRead (kind read) frame.wire)
    cases answered : responseData command frame.payload with
    | ok found => exact .inl ⟨within, answered.symm, kept⟩
    | error error => exact .inl ⟨within, answered.symm, kept⟩

/-- What comes of a call is what comes of its response. -/
theorem askWithin_ends (channel : Channel σ) (command replied : UInt8) (header body data : Bytes)
    (timeoutMs : Nat)
    (commandFits : (command :: header).length + body.length < Frame.maxCounted)
    (dataFits : data.length + 2 ≤ Frame.maxCounted)
    (primed : talk.primed heard (Ack.frame :: Reply.response replied data :: later)
      channel.transport) :
    (Channel.askWithin (command :: header) body timeoutMs (patience + 1) channel).Ends
      fun result after => after.settings = channel.settings ∧
        ((data.length ≤ channel.settings.capacity ∧
            result = responseData command ((replied + 1) :: data) ∧
            talk.offers (heard ++ [(Frame.command (command :: header) body).wire]) later
              after.transport) ∨
          (channel.settings.capacity < data.length ∧
            result = .error (.noSpace data.length channel.settings.capacity) ∧
            talk.reading (heard ++ [(Frame.command (command :: header) body).wire])
              (Frame.head (data.length + 2)) (Frame.answer replied data).tail later
              after.transport)) := by
  rw [Channel.askWithin_eq]
  apply Action.ends_on
  apply Action.ends_of_answers (talk.putCommand_answers (command :: header) body commandFits primed)
  intro put offered
  exact (talk.takeResponse_ends command replied data _ _ dataFits offered).mono
    fun _ _ taken => ⟨rfl, taken⟩

theorem askWithin_answers (channel : Channel σ) (command : UInt8) (header body data : Bytes)
    (timeoutMs : Nat)
    (commandFits : (command :: header).length + body.length < Frame.maxCounted)
    (dataFits : data.length + 2 ≤ Frame.maxCounted)
    (accepted : data.length ≤ channel.settings.capacity)
    (primed : talk.primed heard (Ack.frame :: Reply.response command data :: later)
      channel.transport) :
    (Channel.askWithin (command :: header) body timeoutMs (patience + 1) channel).Answers data
      fun after => after.settings = channel.settings ∧
        talk.offers (heard ++ [(Frame.command (command :: header) body).wire]) later
          after.transport := by
  apply Outcome.Ends.answers
  apply (talk.askWithin_ends channel command command header body data timeoutMs commandFits dataFits
    primed).mono
  rintro result after ⟨settings, ⟨-, rfl, offered⟩ | ⟨exceeds, -, -⟩⟩
  · exact ⟨if_pos rfl, settings, offered⟩
  · exact absurd accepted (Nat.not_le_of_gt exceeds)

theorem ask_answers (channel : Channel σ) (command : UInt8) (header body data : Bytes)
    (commandFits : (command :: header).length + body.length < Frame.maxCounted)
    (dataFits : data.length + 2 ≤ Frame.maxCounted)
    (accepted : data.length ≤ channel.settings.capacity)
    (primed : talk.primed heard (Ack.frame :: Reply.response command data :: later)
      channel.transport) :
    (Channel.ask (command :: header) body (patience + 1) channel).Answers data fun after =>
      after.settings = channel.settings ∧
        talk.offers (heard ++ [(Frame.command (command :: header) body).wire]) later
          after.transport :=
  talk.askWithin_answers channel command header body data channel.settings.timeoutMs commandFits
    dataFits accepted primed

end Conversation

end NfcLink
