import NfcLink.Proofs.Handshake.I2c
import NfcLink.Proofs.Handshake.Serial
import NfcLink.Proofs.Handshake.Spi
import NfcLink.Proofs.Handshake.Stream

/-!
# Agreement of the buses

One exchange leaves a conversation where it found it, with one command more heard.
A session of any length therefore goes through on every bus: the answers are the
data of the scripted replies, and the controller hears one sequence of frames.
-/
namespace NfcLink

open NfcLink.Action Outcome

/-- A command that fits a frame, and the data that its response carries. -/
structure Call where
  command : UInt8
  header : Bytes
  body : Bytes
  data : Bytes
  commandFits : (command :: header).length + body.length ≤ 254
  dataFits : data.length ≤ 253

namespace Call

def encode (call : Call) : Except Error Bytes :=
  Frame.encode (call.command :: call.header) call.body

def frame (call : Call) : Bytes := (Frame.command (call.command :: call.header) call.body).wire

theorem encode_eq (call : Call) : call.encode = .ok call.frame :=
  Frame.encode_of_fits _ _ (Nat.lt_succ_of_le call.commandFits)

end Call

variable {σ : Type} [Host σ] [Transport σ]

/-- Makes the calls one after the other, and sets up the reply to each just before it. -/
def converse (rehearse : UInt8 → Bytes → σ → σ) : List Call → Action (Channel σ) (List Bytes)
  | [] => pure []
  | call :: later => do
    (Action.modify (rehearse call.command call.data)).on Channel.transportPart
    let data ← Channel.ask (call.command :: call.header) call.body
    let rest ← converse rehearse later
    return data :: rest

/-- The channel starts, every call of the session gets its data, and the transport ends up like
this. -/
def ClosedChannel.Serves (closed : ClosedChannel σ) (rehearse : UInt8 → Bytes → σ → σ)
    (session : List Call) (patience : Nat) (post : σ → Prop) : Prop :=
  ∃ channel, closed.start patience = .done channel channel.transport ∧
    (converse rehearse session patience channel).Answers (session.map Call.data) fun after =>
      post after.transport

namespace Conversation

variable (talk : Conversation σ) {session : List Call} {patience : Nat}

theorem converse_answers (channel : Channel σ) {heard : List Bytes}
    (roomy : ∀ call ∈ session, call.data.length ≤ channel.settings.capacity)
    (offered : talk.offers heard [] channel.transport) :
    (converse talk.rehearse session (patience + 1) channel).Answers (session.map Call.data)
      fun after => talk.offers (heard ++ session.map Call.frame) [] after.transport := by
  -- The frames heard so far grow with every call, and the settings stay.
  induction session generalizing channel heard with
  | nil =>
    refine ⟨channel, rfl, ?_⟩
    simpa using offered
  | cons call later ih =>
    let primed : Channel σ :=
      { channel with transport := talk.rehearse call.command call.data channel.transport }
    have ready : talk.primed heard [Ack.frame, Reply.response call.command call.data]
        primed.transport := talk.primes offered call.command call.data
    have done : (Action.modify (talk.rehearse call.command call.data)).on Channel.transportPart
        (patience + 1) channel = .done () primed := rfl
    unfold converse
    rw [bind_of_done done]
    refine answers_bind (talk.ask_answers primed call.command call.header call.body call.data
      (Nat.lt_succ_of_le call.commandFits) (Nat.add_le_add_right call.dataFits 2)
      (roomy call List.mem_cons_self) ready) ?_
    rintro after ⟨settings, offered⟩
    have fits : ∀ call ∈ later, call.data.length ≤ after.settings.capacity :=
      fun call member => settings ▸ roomy call (List.mem_cons_of_mem _ member)
    have rest := ih after fits offered
    apply answers_bind rest
    intro final offered
    rw [List.append_assoc] at offered
    exact ⟨final, rfl, offered⟩

theorem serves (closed : ClosedChannel σ)
    (ready : ((ClosedChannel.ready : Action σ Unit) (patience + 1) closed.transport).Answers ()
      (talk.offers [] []))
    (roomy : ∀ call ∈ session, call.data.length ≤ closed.settings.capacity) :
    closed.Serves talk.rehearse session (patience + 1)
      (talk.offers (session.map Call.frame) []) := by
  obtain ⟨state, started, offered⟩ := ready
  let channel : Channel σ := { transport := state, settings := closed.settings }
  refine ⟨channel, ?_, talk.converse_answers channel roomy offered⟩
  simp only [ClosedChannel.start, started, channel]

end Conversation

theorem ClosedChannel.Serves.mono {closed : ClosedChannel σ} {rehearse : UInt8 → Bytes → σ → σ}
    {session : List Call} {patience : Nat} {post weaker : σ → Prop}
    (serves : closed.Serves rehearse session patience post)
    (weaken : ∀ state, post state → weaker state) :
    closed.Serves rehearse session patience weaker := by
  obtain ⟨channel, started, answers⟩ := serves
  exact ⟨channel, started, answers.mono fun after => weaken after.transport⟩

/-- Any session gives the same answers on the scripted transport, on SPI in either bit order, on
I²C and on a serial line on which no time passes. Nothing is left to be read or to be replied, and
the controller heard the same commands in the same order. -/
theorem buses_agree (session : List Call) (settings : ChannelSettings) (patience : Nat)
    (roomy : ∀ call ∈ session, call.data.length ≤ settings.capacity)
    (stream : Bench StreamDevice) (willing : stream.device.Willing)
    (unsent : stream.device.sent = []) (unread : stream.device.queue = [])
    (spi : SpiPort (Bench SpiDevice))
    (spiFresh : spi.bus.device = { bitOrder := spi.settings.bitOrder })
    (i2c : I2cPort (Bench I2cDevice)) (i2cFresh : i2c.bus.device = {})
    (serial : SerialPort (Bench SerialDevice)) (stale : Bytes)
    (serialFresh : serial.bus.device = { buffer := stale }) (still : serial.bus.tickNs = 0) :
    ∃ frames, session.map Call.encode = frames.map .ok ∧
      ClosedChannel.Serves ⟨stream, settings⟩ StreamDevice.setUp session (patience + 1)
        (fun after => after.device.queue = [] ∧ after.device.sent = frames) ∧
      ClosedChannel.Serves ⟨spi, settings⟩ SpiPort.setUp session (patience + 1)
        (fun after => after.bus.device.output = [] ∧ after.bus.device.replies = [] ∧
          after.bus.device.frames = frames) ∧
      ClosedChannel.Serves ⟨i2c, settings⟩ I2cPort.setUp session (patience + 1)
        (fun after => after.bus.device.frames = [] ∧ after.bus.device.replies = [] ∧
          after.bus.device.writes.filter I2cPort.isMessage =
            (after.settings.address, [0x00]) :: frames.map (after.settings.address, ·)) ∧
      ClosedChannel.Serves ⟨serial, settings⟩ SerialPort.setUp session (patience + 1)
        (fun after => after.bus.device.buffer = [] ∧ after.bus.device.replies = [] ∧
          after.bus.device.written =
            SerialPort.wakeUp ++ (frames.map (SerialPort.wakeUp ++ ·)).flatten) := by
  refine ⟨session.map Call.frame, ?_, ?_, ?_, ?_, ?_⟩
  · simp [Call.encode_eq]
  · refine (StreamDevice.conversation.serves ⟨stream, settings⟩
      (StreamDevice.ready_answers willing unsent unread) roomy).mono ?_
    intro after holds
    exact ⟨holds.queue, holds.sent⟩
  · refine (SpiPort.conversation.serves ⟨spi, settings⟩
      (SpiPort.ready_answers spiFresh) roomy).mono ?_
    intro after holds
    exact ⟨holds.output, holds.replies, holds.frames⟩
  · refine (I2cPort.conversation.serves ⟨i2c, settings⟩
      (I2cPort.ready_answers i2cFresh) roomy).mono ?_
    intro after holds
    exact ⟨holds.frames, holds.replies, holds.writes⟩
  · refine (SerialPort.conversation.serves ⟨serial, settings⟩
      (SerialPort.ready_answers stale still serialFresh) roomy).mono ?_
    intro after holds
    exact ⟨holds.buffer, holds.replies, holds.written⟩

/-- A session of two calls without timeouts, with as much data as has room, in the reversed bit
order, and on a line that still holds an octet. -/
theorem buses_agree_on_two_calls :
    let session : List Call :=
      [⟨0xFF, [0x01], [], [0x2A], by decide, by decide⟩,
        ⟨0x02, [], [0x03], [], by decide, by decide⟩]
    let settings : ChannelSettings := { timeoutMs := 0, capacity := 1 }
    (∀ call ∈ session, call.data.length ≤ settings.capacity) ∧
    ∃ frames, session.map Call.encode = frames.map .ok ∧
      ClosedChannel.Serves ⟨{ device := {} }, settings⟩ StreamDevice.setUp session 1
        (fun after => after.device.queue = [] ∧ after.device.sent = frames) ∧
      ClosedChannel.Serves
        ⟨{ bus := { device := { bitOrder := .lsbFirst } }, settings := { bitOrder := .lsbFirst } },
          settings⟩ SpiPort.setUp session 1
        (fun after => after.bus.device.output = [] ∧ after.bus.device.replies = [] ∧
          after.bus.device.frames = frames) ∧
      ClosedChannel.Serves ⟨{ bus := { device := {} }, settings := {} }, settings⟩ I2cPort.setUp
        session 1
        (fun after => after.bus.device.frames = [] ∧ after.bus.device.replies = [] ∧
          after.bus.device.writes.filter I2cPort.isMessage =
            (after.settings.address, [0x00]) :: frames.map (after.settings.address, ·)) ∧
      ClosedChannel.Serves ⟨{ bus := { device := { buffer := [0x55] } }, settings := {} }, settings⟩
        SerialPort.setUp session 1
        (fun after => after.bus.device.buffer = [] ∧ after.bus.device.replies = [] ∧
          after.bus.device.written =
            SerialPort.wakeUp ++ (frames.map (SerialPort.wakeUp ++ ·)).flatten) := by
  intro session settings
  have roomy : ∀ call ∈ session, call.data.length ≤ settings.capacity := by
    simp [session, settings]
  refine ⟨roomy, ?_⟩
  exact buses_agree session settings 0 roomy { device := {} } ⟨rfl, rfl, rfl⟩ rfl rfl
    { bus := { device := { bitOrder := .lsbFirst } }, settings := { bitOrder := .lsbFirst } } rfl
    { bus := { device := {} }, settings := {} } rfl
    { bus := { device := { buffer := [0x55] } }, settings := {} } [0x55] rfl rfl

end NfcLink
