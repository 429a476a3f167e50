import NfcLink.Proofs.Handshake.Conversation
import NfcLink.Sim.Stream

/-!
# Exchanges on the scripted transport

The scripted transport serves one queue of bytes, whatever was written to it. On
such a transport an exchange succeeds on exactly those queues that begin with an
acknowledgement and the response to the command, and it takes those bytes and no
others.
-/
namespace NfcLink.StreamDevice

open NfcLink.Action Outcome Transport

/-- Always ready, and no write is refused. -/
structure Willing (device : StreamDevice) : Prop where
  idle : device.busyPolls = 0
  awake : device.alwaysBusy = false
  accepting : device.refusedSends = 0

/-- Always ready, whether or not it takes a write. -/
structure Ready (device : StreamDevice) : Prop where
  idle : device.busyPolls = 0
  awake : device.alwaysBusy = false

section Willing

variable {device : StreamDevice} (willing : device.Willing)
include willing

theorem Willing.ready : device.Ready := ⟨willing.idle, willing.awake⟩

theorem Willing.polled (polls : Nat) : Willing { device with polls } :=
  ⟨willing.idle, willing.awake, willing.accepting⟩

theorem Willing.written (sent : List Bytes) : Willing { device with sent } :=
  ⟨willing.idle, willing.awake, willing.accepting⟩

theorem Willing.served (queue : Bytes) : Willing { device with queue } :=
  ⟨willing.idle, willing.awake, willing.accepting⟩

end Willing

/-! ### Single operations -/

variable {bench : Bench StreamDevice} {patience : Nat}

theorem poll_eq (ready : bench.device.Ready) :
    (Transport.poll : Action (Bench StreamDevice) Bool) patience bench =
      .done true { bench with
        device := { bench.device with polls := bench.device.polls + 1 } } := by
  obtain ⟨idle, awake⟩ := ready
  apply Bench.step_of_ok
  simp only [StreamDevice.poll, awake, idle, Bool.false_eq_true, if_false]

theorem send_eq (willing : bench.device.Willing) (data : Bytes) :
    (Transport.send data : Action (Bench StreamDevice) Unit) patience bench =
      .done () { bench with
        device := { bench.device with sent := bench.device.sent ++ [data] } } := by
  apply Bench.step_of_ok
  simp only [StreamDevice.send, willing.accepting]

theorem receive_of_short (wanted timeoutMs : Nat) (short : bench.device.queue.length < wanted) :
    (Transport.receive wanted timeoutMs : Action (Bench StreamDevice) Bytes) patience bench =
      .failed .timeout bench := by
  change Bench.step _ patience bench = _
  simp only [Bench.step, ofStep, StreamDevice.receive, if_pos short]

theorem receive_of_enough (wanted timeoutMs : Nat) (enough : wanted ≤ bench.device.queue.length) :
    (Transport.receive wanted timeoutMs : Action (Bench StreamDevice) Bytes) patience bench =
      .done (bench.device.queue.take wanted) { bench with
        device := { bench.device with queue := bench.device.queue.drop wanted } } := by
  have long : ¬ bench.device.queue.length < wanted := Nat.not_lt_of_ge enough
  apply Bench.step_of_ok
  simp only [StreamDevice.receive, if_neg long]

/-- A successful read took its bytes from the front of the queue and did nothing else. -/
theorem receive_eq_done {wanted timeoutMs : Nat} {bytes : Bytes} {after : Bench StreamDevice}
    (done : (Transport.receive wanted timeoutMs : Action (Bench StreamDevice) Bytes) patience
      bench = .done bytes after) :
    bench.device.queue = bytes ++ after.device.queue ∧
      after.device = { bench.device with queue := after.device.queue } := by
  rcases Nat.lt_or_ge bench.device.queue.length wanted with short | enough
  · rw [receive_of_short wanted timeoutMs short] at done
    cases done
  · rw [receive_of_enough wanted timeoutMs enough] at done
    cases done
    exact ⟨(List.take_append_drop wanted _).symm, rfl⟩

/-! ### The conversation -/

/-- Ready, with these frames written to it and these bytes queued. -/
structure Holds (heard frames : List Bytes) (bench : Bench StreamDevice) : Prop where
  willing : bench.device.Willing
  sent : bench.device.sent = heard
  queue : bench.device.queue = frames.flatten

theorem Holds.record {heard frames : List Bytes} (holds : Holds heard frames bench)
    (notice : Notice) : Holds heard frames (Host.record notice bench) :=
  ⟨holds.willing, holds.sent, holds.queue⟩

theorem Holds.receive {heard later : List Bytes} {piece left : Bytes}
    (holds : Holds heard ((piece ++ left) :: later) bench) (timeoutMs : Nat) :
    ((Transport.receive piece.length timeoutMs : Action (Bench StreamDevice) Bytes) patience
      bench).Answers piece (Holds heard (left :: later)) := by
  have queue : bench.device.queue = piece ++ (left ++ later.flatten) := by
    rw [holds.queue, List.flatten_cons, List.append_assoc]
  have enough : piece.length ≤ bench.device.queue.length := by
    rw [queue, List.length_append]
    omega
  rw [receive_of_enough piece.length timeoutMs enough, queue, List.take_left, List.drop_left]
  exact ⟨_, rfl, holds.willing.served _, holds.sent, rfl⟩

/-- Sets up the reply to the next command. -/
def setUp (command : UInt8) (data : Bytes) (bench : Bench StreamDevice) : Bench StreamDevice :=
  { bench with device := bench.device.rehearse command data }

def conversation : Conversation (Bench StreamDevice) where
  rehearse := setUp
  primed := Holds
  offers := Holds
  reading heard _ left later := Holds heard (left :: later)
  primes := by
    intro heard bench holds command data
    refine ⟨holds.willing.served _, holds.sent, ?_⟩
    simp [setUp, StreamDevice.rehearse, push, holds.queue, Reply.full]
  record_primed holds := holds.record
  record_offers holds := holds.record
  send := by
    intro heard reply bench holds header body patience fits
    refine ⟨_, send_eq holds.willing _, holds.willing.written _, ?_, holds.queue⟩
    simp only [holds.sent]
  poll := by
    intro heard frame later bench holds nonempty patience
    exact ⟨_, poll_eq holds.willing.ready, holds.willing.polled _, holds.sent, holds.queue⟩
  piece holds _ timeoutMs patience := holds.receive timeoutMs
  final := by
    intro heard handed piece later bench holds timeoutMs patience
    rw [← List.append_nil piece] at holds
    exact (holds.receive timeoutMs).mono fun _ left => ⟨left.willing, left.sent, left.queue⟩

theorem ready_answers (willing : bench.device.Willing) (unsent : bench.device.sent = [])
    (unread : bench.device.queue = []) :
    ((ClosedChannel.ready : Action (Bench StreamDevice) Unit) patience bench).Answers ()
      (conversation.offers [] []) :=
  ⟨_, rfl, ⟨willing.idle, willing.awake, willing.accepting⟩, unsent, unread⟩

/-! ### What an exchange accepts -/

theorem awaitReady_eq (ready : bench.device.Ready) (budgetMs : Nat) :
    (awaitReady budgetMs : Action (Bench StreamDevice) Unit) (patience + 1) bench =
      .done () { bench with
        device := { bench.device with polls := bench.device.polls + 1 } } := by
  obtain ⟨after, done, same⟩ := awaitReady_answers budgetMs ⟨_, poll_eq ready, rfl⟩
  rw [done, same]

section Kept

variable {kept : StreamDevice → Prop}

theorem awaitReady_stays (ready : ∀ device, kept device → device.Ready)
    (polled : ∀ device polls, kept device → kept { device with polls }) (budgetMs : Nat) :
    Stays (fun bench : Bench StreamDevice => kept bench.device) (patience + 1)
      (awaitReady budgetMs) := by
  intro bench holds
  rw [awaitReady_eq (ready _ holds)]
  exact polled _ _ holds

theorem receive_stays (served : ∀ device queue, kept device → kept { device with queue })
    (wanted timeoutMs : Nat) :
    Stays (fun bench : Bench StreamDevice => kept bench.device) patience
      (Transport.receive wanted timeoutMs) := by
  intro bench holds
  rcases Nat.lt_or_ge bench.device.queue.length wanted with short | enough
  · rw [receive_of_short wanted timeoutMs short]
    exact holds
  · rw [receive_of_enough wanted timeoutMs enough]
    exact served _ _ holds

end Kept

theorem putCommand_eq_done {header body : Bytes} {after : Bench StreamDevice}
    (willing : bench.device.Willing)
    (done : putCommand header body (patience + 1) bench = .done () after) :
    bench.device.queue = Ack.frame ++ after.device.queue ∧ after.device.Willing := by
  obtain ⟨frame, sent, ready, read, -, sending, waiting, reading, rfl⟩ :=
    Transport.putCommand_eq_done done
  -- The queue is read for the acknowledgement only; the other steps leave it alone.
  have recorded : (Host.record (.commandWritten (kind bench) frame) bench).device.Willing := willing
  have written : sent.device = { bench.device with sent := bench.device.sent ++ [frame] } := by
    cases sending.symm.trans (send_eq recorded frame)
    rfl
  have still : sent.device.Willing := by
    rw [written]
    exact willing.written _
  cases waiting.symm.trans (awaitReady_eq still.ready _)
  obtain ⟨queue, rest⟩ := receive_eq_done reading
  simp only [written] at queue rest
  refine ⟨queue, ?_⟩
  change read.device.Willing
  rw [rest]
  exact ((willing.written _).polled _).served _

theorem takeResponse_eq_done {command : UInt8} {timeoutMs capacity : Nat} {data : Bytes}
    {after : Bench StreamDevice} (unbusy : bench.device.Ready)
    (done : takeResponse command timeoutMs capacity (patience + 1) bench = .done data after) :
    bench.device.queue = Reply.response command data ++ after.device.queue ∧
      data.length + 2 ≤ Frame.maxCounted ∧ data.length ≤ capacity := by
  obtain ⟨ready, begun, read, head, rest, waiting, headRead, restRead, rfl, whole, fits,
    accepted⟩ := Transport.takeResponse_eq_done done
  cases waiting.symm.trans (awaitReady_eq unbusy _)
  have first := (receive_eq_done headRead).1
  have second := (receive_eq_done restRead).1
  refine ⟨?_, fits, accepted⟩
  rw [Reply.response_of_fits command data fits, ← whole, List.append_assoc]
  change bench.device.queue = head ++ (rest ++ read.device.queue)
  rw [← second, ← first]

theorem ask_eq_done {channel : Channel (Bench StreamDevice)}
    (willing : channel.transport.device.Willing) {command : UInt8} {header body data : Bytes}
    {after : Channel (Bench StreamDevice)}
    (done : Channel.ask (command :: header) body (patience + 1) channel = .done data after) :
    channel.transport.device.queue =
        Ack.frame ++ Reply.response command data ++ after.transport.device.queue ∧
      data.length ≤ 253 ∧ data.length ≤ channel.settings.capacity := by
  rw [Channel.ask_eq] at done
  obtain ⟨transport, exchanged, rfl⟩ := (on_eq_done_iff ..).mp done
  obtain ⟨_, middle, put, take⟩ := (bind_eq_done_iff ..).mp exchanged
  obtain ⟨acknowledged, still⟩ := putCommand_eq_done willing put
  obtain ⟨answered, dataFits, accepted⟩ := takeResponse_eq_done still.ready take
  refine ⟨?_, Nat.le_of_add_le_add_right dataFits, accepted⟩
  rw [List.append_assoc]
  change channel.transport.device.queue = Ack.frame ++ (_ ++ transport.device.queue)
  rw [← answered, ← acknowledged]

/-- Whatever the queue holds, the exchange ends with one frame written. -/
theorem ask_ends (channel : Channel (Bench StreamDevice))
    (willing : channel.transport.device.Willing) (command : UInt8) (header body : Bytes)
    (within : (command :: header).length + body.length < Frame.maxCounted) :
    (Channel.ask (command :: header) body (patience + 1) channel).Ends fun _ after =>
      after.transport.device.sent = channel.transport.device.sent ++
        [(Frame.command (command :: header) body).wire] := by
  -- After the write nothing is sent any more, however the rest ends.
  let kept (device : StreamDevice) : Prop := device.Willing ∧
    device.sent = channel.transport.device.sent ++ [(Frame.command (command :: header) body).wire]
  have records : ∀ bench : Bench StreamDevice, kept bench.device →
      ∀ notice, kept (Host.record notice bench).device := fun _ holds _ => holds
  have waits : ∀ budgetMs, Stays (fun bench : Bench StreamDevice => kept bench.device)
      (patience + 1) (awaitReady budgetMs) :=
    awaitReady_stays (fun _ holds => holds.1.ready)
      fun _ polls holds => ⟨holds.1.polled polls, holds.2⟩
  have receives : ∀ wanted timeoutMs, Stays (fun bench : Bench StreamDevice => kept bench.device)
      (patience + 1) (Transport.receive wanted timeoutMs) :=
    receive_stays fun _ queue holds => ⟨holds.1.served queue, holds.2⟩
  have sends : ∀ notice, ((Transport.send (Frame.command (command :: header) body).wire :
      Action (Bench StreamDevice) Unit) (patience + 1)
        (Host.record notice channel.transport)).Answers () fun bench => kept bench.device := by
    intro notice
    have noted : (Host.record notice channel.transport).device.Willing := willing
    rw [send_eq noted]
    exact ⟨_, rfl, willing.written _, rfl⟩
  have put := putCommand_ends records (Frame.encode_of_fits _ body within) (sends _) waits receives
  have asked := ends_bind put fun _ => takeResponse_stays records command
    channel.settings.timeoutMs channel.settings.capacity (waits _) fun wanted => receives wanted _
  rw [Channel.ask_eq]
  apply ends_on
  exact asked.mono fun _ _ holds => holds.2

/-- An exchange succeeds on exactly those queues that begin with the acknowledgement and the
response to the command, takes these bytes and no more, and whatever happens it writes the one
frame of the command. -/
theorem ask_accepts_exactly (channel : Channel (Bench StreamDevice))
    (willing : channel.transport.device.Willing) (command : UInt8)
    (header body data rest : Bytes) (fits : (command :: header).length + body.length ≤ 254)
    (patience : Nat) :
    ((∃ after, Channel.ask (command :: header) body (patience + 1) channel = .done data after ∧
        after.transport.device.queue = rest) ↔
      channel.transport.device.queue = Ack.frame ++ Reply.response command data ++ rest ∧
        data.length ≤ 253 ∧ data.length ≤ channel.settings.capacity) ∧
    ∃ frame, Frame.encode (command :: header) body = .ok frame ∧
      (Channel.ask (command :: header) body (patience + 1) channel).Ends fun _ after =>
        after.transport.device.sent = channel.transport.device.sent ++ [frame] := by
  have within : (command :: header).length + body.length < Frame.maxCounted :=
    Nat.lt_succ_of_le fits
  refine ⟨⟨?_, ?_⟩, _, Frame.encode_of_fits _ body within,
    ask_ends channel willing command header body within⟩
  · rintro ⟨after, done, rfl⟩
    exact ask_eq_done willing done
  · rintro ⟨queue, dataFits, accepted⟩
    have holds : Holds channel.transport.device.sent
        [Ack.frame, Reply.response command data, rest] channel.transport := by
      refine ⟨willing, rfl, ?_⟩
      rw [queue]
      simp
    obtain ⟨after, done, -, holds⟩ := conversation.ask_answers channel command header body data
      within (Nat.add_le_add_right dataFits 2) accepted holds
    exact ⟨after, done, by rw [holds.queue, List.flatten_singleton]⟩

/-- Response code zero, data that just has room, and an octet behind the response that stays. -/
theorem ask_takes_no_more_than_the_response :
    let channel : Channel (Bench StreamDevice) :=
      { transport := { device := { queue := Ack.frame ++ Reply.response 0xFF [0x2A] ++ [0x00] } }
        settings := { capacity := 1 } }
    channel.transport.device.Willing ∧ [0xFF].length + ([] : Bytes).length ≤ 254 ∧
      ∃ after, Channel.ask [0xFF] [] 1 channel = .done [0x2A] after ∧
        after.transport.device.queue = [0x00] := by
  intro channel
  have willing : channel.transport.device.Willing := ⟨rfl, rfl, rfl⟩
  have fits : ([0xFF] : Bytes).length + ([] : Bytes).length ≤ 254 := by decide
  have accepts := ask_accepts_exactly channel willing 0xFF [] [] [0x2A] [0x00] fits 0
  exact ⟨willing, fits, accepts.1.mpr ⟨rfl, by decide, by decide⟩⟩

end NfcLink.StreamDevice
