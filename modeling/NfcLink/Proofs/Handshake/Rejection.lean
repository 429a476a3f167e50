import NfcLink.Proofs.Handshake.Agreement

/-!
# What a rejected response leaves behind

A response to another command is read to its end before it is rejected, and the next call
finds the bus empty. One with more data than there is room for is rejected when its head is
read. The rest of it stays on the bus, where the next call takes it for an acknowledgement.
-/
namespace NfcLink

open NfcLink.Action Outcome

namespace Transport

variable {σ : Type} [Host σ] [Transport σ] {patience : Nat} {state : σ}

/-- What is read in the place of an acknowledgement fails the command. -/
theorem putCommand_rejects {header body bytes : Bytes} {sent found read : σ → Prop}
    (fits : header.length + body.length < Frame.maxCounted) (other : bytes ≠ Ack.frame)
    (sends : (send (Frame.command header body).wire (patience + 1)
      (Host.record (.commandWritten (kind state) (Frame.command header body).wire) state)).Answers
        () sent)
    (polls : ∀ state, sent state → (poll (patience + 1) state).Answers true found)
    (receives : ∀ timeoutMs state, found state →
      (receive Ack.frame.length timeoutMs (patience + 1) state).Answers bytes read) :
    (putCommand header body (patience + 1) state).Ends fun result _ =>
      result = .error (.invalidAck bytes) := by
  have rejected : Ack.expect bytes = .error (.invalidAck bytes) := by
    simp [Ack.expect, Ack.accepts, other]
  unfold putCommand
  rw [Frame.encode_of_fits header body fits, lift_ok_bind, Transport.note_bind]
  apply ends_of_answers sends
  intro state written
  rw [get_bind]
  apply ends_of_answers (answers_onFailure (awaitReady_answers _ (polls state written)))
  intro state ready
  apply ends_of_answers (receives _ state ready)
  intro state _
  rw [Transport.note_bind, rejected]
  rfl

/-- A code that does not answer the command is reported with the one that would. -/
theorem responseData_of_other {command replied : UInt8} (other : replied ≠ command)
    (data : Bytes) :
    responseData command ((replied + 1) :: data) =
      .error (.commandMismatch (command + 1) (replied + 1)) :=
  if_neg fun same => other ((UInt8.add_left_inj 1).mp same)

end Transport

namespace Channel

variable {σ : Type} [Host σ] [Transport σ]

/-- A command that fails ends the call. -/
theorem askWithin_of_failing {channel : Channel σ} {command : UInt8} {header body : Bytes}
    {error : Error} {patience : Nat} (timeoutMs : Nat)
    (fails : (Transport.putCommand (command :: header) body patience channel.transport).Ends
      fun result _ => result = .error error) :
    (askWithin (command :: header) body timeoutMs patience channel).Ends fun result _ =>
      result = .error error := by
  rw [askWithin_eq]
  apply ends_on
  apply ends_then fails
  · rintro found between ⟨rfl⟩
    rfl
  · rintro answer between ⟨⟩

end Channel

/-! ### Calls with a reply of their own -/

/-- Sets up the reply to a command, be it the right one or not, and makes the call. -/
def Call.made {σ : Type} [Host σ] [Transport σ] (call : Call) (rehearse : UInt8 → Bytes → σ → σ)
    (replied : UInt8) (timeoutMs : Nat) : Action (Channel σ) Bytes := do
  (Action.modify (rehearse replied call.data)).on Channel.transportPart
  Channel.askWithin (call.command :: call.header) call.body timeoutMs

/-- Two calls in a row, the first of which may get the reply to another command. -/
structure CallPair where
  first : Call
  replied : UInt8
  firstMs : Nat
  next : Call
  nextMs : Nat

namespace CallPair

variable {σ : Type} [Host σ] [Transport σ]

/-- The first call fails with this error, and what comes of the next one is this. -/
def Yields (pair : CallPair) (rehearse : UInt8 → Bytes → σ → σ) (patience : Nat)
    (channel : Channel σ) (error : Error) (result : Except Error Bytes) : Prop :=
  (pair.first.made rehearse pair.replied pair.firstMs patience channel).Ends fun found between =>
    found = .error error ∧
      (pair.next.made rehearse pair.next.command pair.nextMs patience between).Ends
        fun found _ => found = result

theorem Yields.unique {pair : CallPair} {rehearse : UInt8 → Bytes → σ → σ} {patience : Nat}
    {channel : Channel σ} {first second : Error} {one other : Except Error Bytes}
    (yields : pair.Yields rehearse patience channel first one)
    (again : pair.Yields rehearse patience channel second other) : one = other := by
  obtain ⟨-, between, ⟨-, ends⟩, ⟨-, endsToo⟩⟩ := Ends.both yields again
  obtain ⟨result, -, same, sameToo⟩ := Ends.both ends endsToo
  exact same.symm.trans sameToo

/-- The reply to the first call is rejected, and that to the next one has room. -/
def Rejects (pair : CallPair) (settings : ChannelSettings) : Prop :=
  (pair.replied ≠ pair.first.command ∨ settings.capacity < pair.first.data.length) ∧
    pair.next.data.length ≤ settings.capacity

end CallPair

/-- No rejected response keeps the next call from its own. -/
def Channel.Recovers {σ : Type} [Host σ] [Transport σ] (channel : Channel σ)
    (rehearse : UInt8 → Bytes → σ → σ) : Prop :=
  ∀ (pair : CallPair) patience, pair.Rejects channel.settings →
    ∃ error, pair.Yields rehearse (patience + 1) channel error (.ok pair.next.data)

namespace Conversation

variable {σ : Type} [Host σ] [Transport σ] (talk : Conversation σ)
variable {heard : List Bytes} {patience : Nat} {channel : Channel σ} {pair : CallPair}

/-- What comes of a call when nothing is pending. -/
theorem made_ends (offered : talk.offers heard [] channel.transport) (call : Call)
    (replied : UInt8) (timeoutMs : Nat) :
    (call.made talk.rehearse replied timeoutMs (patience + 1) channel).Ends fun result after =>
      after.settings = channel.settings ∧
        ((call.data.length ≤ channel.settings.capacity ∧
            result = Transport.responseData call.command ((replied + 1) :: call.data) ∧
            talk.offers (heard ++ [call.frame]) [] after.transport) ∨
          (channel.settings.capacity < call.data.length ∧
            result = .error (.noSpace call.data.length channel.settings.capacity) ∧
            talk.reading (heard ++ [call.frame]) (Frame.head (call.data.length + 2))
              (Frame.answer replied call.data).tail [] after.transport)) := by
  let primed : Channel σ :=
    { channel with transport := talk.rehearse replied call.data channel.transport }
  have done : (Action.modify (talk.rehearse replied call.data)).on Channel.transportPart
      (patience + 1) channel = .done () primed := rfl
  unfold Call.made
  rw [bind_of_done done]
  exact talk.askWithin_ends primed call.command replied call.header call.body call.data timeoutMs
    (Nat.lt_succ_of_le call.commandFits) (Nat.add_le_add_right call.dataFits 2)
    (talk.primes offered replied call.data)

/-- The reply to another command does no harm. -/
theorem yields_of_mismatch (offered : talk.offers heard [] channel.transport)
    (other : pair.replied ≠ pair.first.command)
    (within : pair.first.data.length ≤ channel.settings.capacity)
    (roomy : pair.next.data.length ≤ channel.settings.capacity) :
    pair.Yields talk.rehearse (patience + 1) channel
      (.commandMismatch (pair.first.command + 1) (pair.replied + 1)) (.ok pair.next.data) := by
  apply (talk.made_ends offered pair.first pair.replied pair.firstMs).mono
  rintro result between ⟨settings, ⟨-, rfl, offered⟩ | ⟨exceeds, -⟩⟩
  · refine ⟨Transport.responseData_of_other other _, ?_⟩
    apply (talk.made_ends offered pair.next pair.next.command pair.nextMs).mono
    rintro result after ⟨-, ⟨-, rfl, -⟩ | ⟨exceeds, -⟩⟩
    · exact if_pos rfl
    · rw [settings] at exceeds
      exact absurd roomy (Nat.not_le_of_gt exceeds)
  · exact absurd within (Nat.not_le_of_gt exceeds)

/-- What is left of a reply with too much data fails the next command. -/
theorem yields_of_excess {bytes : Bytes} (offered : talk.offers heard [] channel.transport)
    (exceeds : channel.settings.capacity < pair.first.data.length)
    (jams : ∀ state, talk.reading (heard ++ [pair.first.frame])
        (Frame.head (pair.first.data.length + 2))
        (Frame.answer pair.replied pair.first.data).tail [] state →
      (Transport.putCommand (pair.next.command :: pair.next.header) pair.next.body (patience + 1)
        (talk.rehearse pair.next.command pair.next.data state)).Ends fun result _ =>
          result = .error (.invalidAck bytes)) :
    pair.Yields talk.rehearse (patience + 1) channel
      (.noSpace pair.first.data.length channel.settings.capacity)
      (.error (.invalidAck bytes)) := by
  apply (talk.made_ends offered pair.first pair.replied pair.firstMs).mono
  rintro result between ⟨-, ⟨within, -⟩ | ⟨-, rfl, reading⟩⟩
  · exact absurd within (Nat.not_le_of_gt exceeds)
  · refine ⟨rfl, ?_⟩
    let primed : Channel σ := { between with
      transport := talk.rehearse pair.next.command pair.next.data between.transport }
    have done : (Action.modify (talk.rehearse pair.next.command pair.next.data)).on
        Channel.transportPart (patience + 1) between = .done () primed := rfl
    unfold Call.made
    rw [bind_of_done done]
    exact Channel.askWithin_of_failing pair.nextMs (jams between.transport reading)

end Conversation

/-! ### What the next call takes for its acknowledgement -/

namespace SpiPort

/-- Both sides use one bit order, and there is nothing to be read or to be replied. -/
structure Idle (port : SpiPort (Bench SpiDevice)) : Prop where
  order : port.bus.device.bitOrder = port.settings.bitOrder
  output : port.bus.device.output = []
  replies : port.bus.device.replies = []

/-- The output goes on where it was left, and the reply to the next command stands behind. -/
theorem putCommand_jams {port : SpiPort (Bench SpiDevice)} {heard : List Bytes}
    {left piece more : Bytes} (holds : Holds heard left [] port)
    (behind : left ++ Ack.frame = piece ++ more) (long : piece.length = Ack.frame.length)
    (other : piece ≠ Ack.frame) (command : UInt8) (data : Bytes) {header body : Bytes}
    (fits : header.length + body.length < Frame.maxCounted) (patience : Nat) :
    (Transport.putCommand header body (patience + 1) (setUp command data port)).Ends
      fun result _ => result = .error (.invalidAck piece) := by
  have whole : left ++ Reply.full command data =
      piece ++ (more ++ Reply.response command data) := by
    rw [Reply.full, ← List.append_assoc, behind, List.append_assoc]
  have primed : Holds heard left [Reply.full command data] (setUp command data port) := by
    refine ⟨holds.order, holds.frames, holds.output, ?_⟩
    simp [setUp, SpiDevice.rehearse, holds.replies]
  have some : (!(piece ++ (more ++ Reply.response command data)).isEmpty) = true := by
    obtain ⟨octet, rest, rfl⟩ : ∃ octet rest, piece = octet :: rest :=
      List.exists_cons_of_length_pos (by rw [long]; decide)
    rfl
  apply Transport.putCommand_rejects fits other (primed.note _).send
  · intro state offered
    rw [whole] at offered
    exact some ▸ offered.ready
  · intro timeoutMs state offered
    rw [← long]
    exact offered.receive timeoutMs

theorem Idle.offers {port : SpiPort (Bench SpiDevice)} (idle : port.Idle) :
    conversation.offers port.bus.device.frames [] port :=
  ⟨idle.order, rfl, idle.output, idle.replies⟩

/-- The next call reads on where the rejected response was left. -/
theorem yields_of_excess {channel : Channel (SpiPort (Bench SpiDevice))} {pair : CallPair}
    (idle : channel.transport.Idle)
    (exceeds : channel.settings.capacity < pair.first.data.length) (patience : Nat) :
    pair.Yields setUp (patience + 1) channel
      (.noSpace pair.first.data.length channel.settings.capacity)
      (.error (.invalidAck (((Frame.answer pair.replied pair.first.data).tail ++ Ack.frame).take
        Ack.frame.length))) := by
  apply conversation.yields_of_excess idle.offers exceeds
  intro state reading
  have holds : Holds (channel.transport.bus.device.frames ++ [pair.first.frame])
      ((Frame.answer pair.replied pair.first.data).tail ++ [].flatten) [] state := reading
  rw [List.flatten_nil, List.append_nil] at holds
  apply putCommand_jams holds (List.take_append_drop _ _).symm
  · rw [List.length_take, List.length_append]
    omega
  · -- What is left of a frame begins with its identifier, which is no part of an acknowledgement.
    intro same
    cases (List.cons.inj same).1
  · exact Nat.lt_succ_of_le pair.next.commandFits

end SpiPort

namespace I2cPort

/-- There is nothing to be read or to be replied. -/
structure Idle (port : I2cPort (Bench I2cDevice)) : Prop where
  willing : port.bus.device.refusedReads = 0
  frames : port.bus.device.frames = []
  replies : port.bus.device.replies = []

/-- The frame that was not read to its end is the pending one still, and is read from its start. -/
theorem putCommand_jams {port : I2cPort (Bench I2cDevice)}
    {earlier : UInt8 → List (UInt8 × Bytes)} {heard : List Bytes} {piece left : Bytes}
    (holds : HoldsSince earlier heard [piece ++ left] [] port) (more : left ≠ [])
    (long : piece.length = Ack.frame.length) (other : piece ≠ Ack.frame) (command : UInt8)
    (data : Bytes) {header body : Bytes} (fits : header.length + body.length < Frame.maxCounted)
    (patience : Nat) :
    (Transport.putCommand header body (patience + 1) (setUp command data port)).Ends
      fun result _ => result = .error (.invalidAck piece) := by
  have primed : HoldsSince earlier heard [piece ++ left]
      [[Ack.frame, Reply.response command data]] (setUp command data port) := by
    refine ⟨holds.willing, holds.writes, holds.frames, ?_⟩
    simp [setUp, I2cDevice.rehearse, holds.replies]
  have counted : (Frame.command header body).Fits := by
    simp only [Frame.Fits, Frame.counted, Frame.command, List.length_cons, List.length_append]
    omega
  apply Transport.putCommand_rejects fits other ((primed.note _).send counted)
  · intro state offered
    exact offered.poll (by simp [more])
  · rintro timeoutMs state ⟨offered, seen⟩
    have pending : HoldsSince earlier (heard ++ [(Frame.command header body).wire])
        [[] ++ piece ++ left, Ack.frame, Reply.response command data] [] state := offered
    rw [← long]
    exact pending.receive seen timeoutMs patience

theorem Idle.offers {port : I2cPort (Bench I2cDevice)} (idle : port.Idle) :
    (conversationSince fun _ => port.bus.device.writes.filter isMessage).offers [] [] port :=
  ⟨idle.willing, (List.append_nil _).symm, idle.frames, idle.replies⟩

/-- The next call reads the rejected response once more. -/
theorem yields_of_excess {channel : Channel (I2cPort (Bench I2cDevice))} {pair : CallPair}
    (idle : channel.transport.Idle)
    (exceeds : channel.settings.capacity < pair.first.data.length) (patience : Nat) :
    pair.Yields setUp (patience + 1) channel
      (.noSpace pair.first.data.length channel.settings.capacity)
      (.error (.invalidAck ((Frame.answer pair.replied pair.first.data).wire.take
        Ack.frame.length))) := by
  apply (conversationSince _).yields_of_excess idle.offers exceeds
  rintro state ⟨holds, -⟩
  have pending : HoldsSince _ _ [(Frame.answer pair.replied pair.first.data).wire] [] state := holds
  have long : Ack.frame.length < (Frame.answer pair.replied pair.first.data).wire.length := by
    rw [Frame.wire_length]
    exact Nat.lt_add_right _ (by decide)
  rw [← List.take_append_drop Ack.frame.length (Frame.answer pair.replied pair.first.data).wire]
    at pending
  apply putCommand_jams pending
  · exact List.ne_nil_of_length_pos (by rw [List.length_drop]; omega)
  · rw [List.length_take]
    omega
  · -- The sixth octet is the identifier, and that of an acknowledgement is zero.
    intro same
    have sixth := congrArg (fun bytes => bytes[5]?) same
    cases sixth
  · exact Nat.lt_succ_of_le pair.next.commandFits

end I2cPort

/-- Which error it was decides what comes of the next call: after a response to another command it
gets its data, and after one with too much data it finds the rest of that in the place of its
acknowledgement. -/
theorem next_call_rests_on_rejection (pair : CallPair) (settings : ChannelSettings)
    (lastCode : Option UInt8) (patience : Nat) (rejects : pair.Rejects settings)
    (spi : SpiPort (Bench SpiDevice)) (spiIdle : spi.Idle)
    (i2c : I2cPort (Bench I2cDevice)) (i2cIdle : i2c.Idle) :
    let rejected := Frame.answer pair.replied pair.first.data
    (pair.first.data.length ≤ settings.capacity →
      let mismatch := .commandMismatch (pair.first.command + 1) (pair.replied + 1)
      pair.Yields SpiPort.setUp (patience + 1) ⟨spi, settings, lastCode⟩ mismatch
        (.ok pair.next.data) ∧
      pair.Yields I2cPort.setUp (patience + 1) ⟨i2c, settings, lastCode⟩ mismatch
        (.ok pair.next.data)) ∧
    (settings.capacity < pair.first.data.length →
      let excess := .noSpace pair.first.data.length settings.capacity
      pair.Yields SpiPort.setUp (patience + 1) ⟨spi, settings, lastCode⟩ excess
        (.error (.invalidAck ((rejected.tail ++ Ack.frame).take Ack.frame.length))) ∧
      pair.Yields I2cPort.setUp (patience + 1) ⟨i2c, settings, lastCode⟩ excess
        (.error (.invalidAck (rejected.wire.take Ack.frame.length)))) := by
  intro rejected
  obtain ⟨reason, roomy⟩ := rejects
  constructor
  · intro within mismatch
    have other : pair.replied ≠ pair.first.command :=
      reason.resolve_right (Nat.not_lt_of_ge within)
    constructor
    · exact SpiPort.conversation.yields_of_mismatch spiIdle.offers other within roomy
    · exact (I2cPort.conversationSince _).yields_of_mismatch i2cIdle.offers other within roomy
  · intro exceeds excess
    constructor
    · exact SpiPort.yields_of_excess spiIdle exceeds patience
    · exact I2cPort.yields_of_excess i2cIdle exceeds patience

/-! ### A response of two octets where there is room for one -/

def jammedCalls : CallPair where
  first := ⟨0x02, [], [], [0x32, 0x01], by decide, by decide⟩
  replied := 0x02
  firstMs := 1000
  next := ⟨0x04, [], [], [0x07], by decide, by decide⟩
  nextMs := 1000

/-- The same with a first response that has room and is one to another command. -/
def mismatchedCalls : CallPair :=
  { jammedCalls with first := ⟨0x02, [], [], [0x32], by decide, by decide⟩, replied := 0x06 }

def narrowSettings : ChannelSettings := { capacity := 1 }

-- What runs on these is not to be unfolded where their theorems are used.
@[irreducible] def freshSpi : SpiPort (Bench SpiDevice) :=
  { bus := { device := { bitOrder := .lsbFirst } }, settings := {} }

@[irreducible] def freshI2c : I2cPort (Bench I2cDevice) :=
  { bus := { device := {} }, settings := {} }

theorem freshSpi_idle : freshSpi.Idle := by
  rw [freshSpi]
  exact ⟨rfl, rfl, rfl⟩

theorem freshI2c_idle : freshI2c.Idle := by
  rw [freshI2c]
  exact ⟨rfl, rfl, rfl⟩

theorem jammedCalls_rejected : jammedCalls.Rejects narrowSettings := by
  refine ⟨.inr ?_, ?_⟩ <;> decide

theorem mismatchedCalls_rejected : mismatchedCalls.Rejects narrowSettings := by
  refine ⟨.inl ?_, ?_⟩ <;> decide

/-- On neither bus does the next call get its data. -/
theorem next_call_is_jammed :
    (¬∀ settings port, SpiPort.Idle port →
      Channel.Recovers { transport := port, settings } SpiPort.setUp) ∧
    ¬∀ settings port, I2cPort.Idle port →
      Channel.Recovers { transport := port, settings } I2cPort.setUp := by
  have exceeds : narrowSettings.capacity < jammedCalls.first.data.length := by decide
  constructor
  · intro recovers
    let channel : Channel (SpiPort (Bench SpiDevice)) := ⟨freshSpi, narrowSettings, none⟩
    have idle : channel.transport.Idle := freshSpi_idle
    obtain ⟨error, yields⟩ :=
      recovers narrowSettings freshSpi freshSpi_idle jammedCalls 0 jammedCalls_rejected
    cases yields.unique (SpiPort.yields_of_excess idle exceeds 0)
  · intro recovers
    let channel : Channel (I2cPort (Bench I2cDevice)) := ⟨freshI2c, narrowSettings, none⟩
    have idle : channel.transport.Idle := freshI2c_idle
    obtain ⟨error, yields⟩ :=
      recovers narrowSettings freshI2c freshI2c_idle jammedCalls 0 jammedCalls_rejected
    cases yields.unique (I2cPort.yields_of_excess idle exceeds 0)

/-- The bytes that are taken for an acknowledgement: on SPI what is left of the first response and
of the true acknowledgement, on I²C the head of the first response. -/
theorem next_calls_of_fresh_ports :
    mismatchedCalls.Yields SpiPort.setUp 1 ⟨freshSpi, narrowSettings, none⟩
      (.commandMismatch 0x03 0x07) (.ok [0x07]) ∧
    mismatchedCalls.Yields I2cPort.setUp 1 ⟨freshI2c, narrowSettings, none⟩
      (.commandMismatch 0x03 0x07) (.ok [0x07]) ∧
    jammedCalls.Yields SpiPort.setUp 1 ⟨freshSpi, narrowSettings, none⟩ (.noSpace 2 1)
      (.error (.invalidAck [0xD5, 0x03, 0x32, 0x01, 0xF5, 0x00])) ∧
    jammedCalls.Yields I2cPort.setUp 1 ⟨freshI2c, narrowSettings, none⟩ (.noSpace 2 1)
      (.error (.invalidAck [0x00, 0x00, 0xFF, 0x04, 0xFC, 0xD5])) := by
  obtain ⟨mismatch, -⟩ := next_call_rests_on_rejection mismatchedCalls narrowSettings none 0
    mismatchedCalls_rejected freshSpi freshSpi_idle freshI2c freshI2c_idle
  obtain ⟨-, excess⟩ := next_call_rests_on_rejection jammedCalls narrowSettings none 0
    jammedCalls_rejected freshSpi freshSpi_idle freshI2c freshI2c_idle
  obtain ⟨spiRecovers, i2cRecovers⟩ := mismatch (by decide)
  obtain ⟨spiJams, i2cJams⟩ := excess (by decide)
  exact ⟨spiRecovers, i2cRecovers, spiJams, i2cJams⟩

end NfcLink
