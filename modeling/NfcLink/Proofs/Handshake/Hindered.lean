import NfcLink.Proofs.Handshake.I2c

/-!
# Calls on a hindered bus

Every read on I²C starts at the first byte of the pending frame, and a read may find the
controller busy or not come about at all. The port counts what it has handed on of the
frame and drops as much from what it reads. A call that starts in the middle of the frame
asks for a repetition first. It ends with the next piece, or it leaves everything as it was
and has used up what hindered it.
-/
namespace NfcLink

open NfcLink.Action Outcome

theorem I2cDevice.write_negative (device : I2cDevice) (address : UInt8) :
    device.write address Ack.negative =
      (.ok (), { device with writes := device.writes ++ [(address, Ack.negative)] }) := by
  have decoded : Frame.decode Ack.negative = .error (.invalidFrame (.lengthChecksum 0xFF 0x00)) :=
    rfl
  simp only [write, decoded]

/-! ### A bus with hindrances -/

/-- What becomes of a read that does not reach the controller. -/
inductive Hindrance where
  | busy (answer : Bytes) (unready : I2cPort.statusReady answer = false)
  | refused (error : Error)

def Hindrance.result : Hindrance → Except Error Bytes
  | busy answer _ => .ok answer
  | refused error => .error error

/-- What the bus and the clock see of a port. -/
inductive I2cEvent where
  | written (address : UInt8) (data : Bytes)
  | read (address : UInt8) (length : Nat) (result : Except Error Bytes)
  | looked (instant : Nat)

def I2cEvent.written? : I2cEvent → Option (UInt8 × Bytes)
  | written address data => some (address, data)
  | _ => none

/-- A controller on a bus that may hinder reads, and a host with any kind of clock. It is given for
the next reads what hinders each of them, if anything does, and all later ones reach the
controller. -/
structure HinderedBus (η : Type) where
  host : η
  device : I2cDevice
  ahead : List (Option Hindrance) := []
  events : List I2cEvent := []

namespace HinderedBus

variable {η : Type}

/-- What hinders the next read. -/
def hindrance? (bus : HinderedBus η) : Option Hindrance := bus.ahead.head?.join

def write (address : UInt8) (data : Bytes) (bus : HinderedBus η) :
    Except Error Unit × HinderedBus η :=
  let (result, device) := bus.device.write address data
  (result, { bus with device, events := bus.events ++ [.written address data] })

def read (address : UInt8) (length : Nat) (bus : HinderedBus η) :
    Except Error Bytes × HinderedBus η :=
  let (result, device) :=
    match bus.hindrance? with
    | some hindrance => (hindrance.result, bus.device)
    | none => bus.device.read length
  (result, { bus with
    device
    ahead := bus.ahead.tail
    events := bus.events ++ [.read address length result] })

instance [Host η] : Host (HinderedBus η) where
  now bus :=
    let (instant, host) := Host.now bus.host
    (instant, { bus with host, events := bus.events ++ [.looked instant] })
  sleep milliseconds bus := { bus with host := Host.sleep milliseconds bus.host }
  record notice bus := { bus with host := Host.record notice bus.host }

instance : I2cMaster (HinderedBus η) where
  write address data := Action.ofStep (write address data)
  read address length := Action.ofStep (read address length)

variable {bus : HinderedBus η} {address : UInt8} {length : Nat}

theorem read_hindered {hindrance : Hindrance} (next : bus.hindrance? = some hindrance) :
    bus.read address length = (hindrance.result, { bus with
      ahead := bus.ahead.tail
      events := bus.events ++ [.read address length hindrance.result] }) := by
  simp only [read, next]

theorem read_through {result : Except Error Bytes} {device : I2cDevice}
    (next : bus.hindrance? = none) (does : bus.device.read length = (result, device)) :
    bus.read address length = (result, { bus with
      device
      ahead := bus.ahead.tail
      events := bus.events ++ [.read address length result] }) := by
  simp only [read, next, does]

theorem tail_lt_of_hindrance {hindrance : Hindrance} (next : bus.hindrance? = some hindrance) :
    bus.ahead.tail.length < bus.ahead.length := by
  unfold hindrance? at next
  cases ahead : bus.ahead with
  | nil => simp [ahead] at next
  | cons first rest => simp

end HinderedBus

/-! ### Calls on the port -/

namespace I2cPort

variable {η : Type} {patience : Nat} {port : I2cPort (HinderedBus η)}

theorem write_of_bus {data : Bytes} {bus : HinderedBus η}
    (does : port.bus.write port.settings.address data = (.ok (), bus)) :
    write data patience port = .done () { port with bus } := by
  have written : (I2cMaster.write port.settings.address data : Action (HinderedBus η) Unit)
      patience port.bus = .done () bus := by
    change Action.ofStep _ patience port.bus = _
    simp only [Action.ofStep, does]
  exact on_of_done written

theorem read_of_bus {length : Nat} {answer : Bytes} {bus : HinderedBus η}
    (does : port.bus.read port.settings.address length = (.ok answer, bus)) :
    read length patience port = .done answer { port with bus } := by
  have answered : (I2cMaster.read port.settings.address length : Action (HinderedBus η) Bytes)
      patience port.bus = .done answer bus := by
    change Action.ofStep _ patience port.bus = _
    simp only [Action.ofStep, does]
  exact on_of_done answered

theorem read_of_refusing {length : Nat} {error : Error} {bus : HinderedBus η}
    (does : port.bus.read port.settings.address length = (.error error, bus)) :
    read length patience port = .failed error { port with bus } := by
  change ((Action.ofStep _).on busPart) patience port = _
  simp only [Action.on, Action.ofStep, busPart, does]

/-- The controller gives this frame and then the later ones, and the port has handed on this much of
it. -/
structure Reading (address : UInt8) (frame : Bytes) (later : List Bytes) (handed : Bytes)
    (port : I2cPort (HinderedBus η)) : Prop where
  address : port.settings.address = address
  willing : port.bus.device.refusedReads = 0
  pending : port.bus.device.frames = if handed = frame then later else frame :: later
  seen : port.seen = handed.length

/-- The deadline of a call, and the look at the clock that sets it. -/
inductive Sets (timeoutMs : Nat) : List I2cEvent → Deadline → Prop where
  | never (unlimited : timeoutMs = 0) : Sets timeoutMs [] Deadline.never
  | limit (instant : Nat) (limited : timeoutMs ≠ 0) :
      Sets timeoutMs [.looked instant] ⟨some (instant + timeoutMs * nanosecondsPerMillisecond)⟩

/-- Whether the time is over, and the look at the clock that tells. -/
inductive Looks : Deadline → List I2cEvent → Bool → Prop where
  | never : Looks Deadline.never [] false
  | early {limit instant : Nat} (before : instant < limit) :
      Looks ⟨some limit⟩ [.looked instant] false
  | late {limit instant : Nat} (reached : limit ≤ instant) :
      Looks ⟨some limit⟩ [.looked instant] true

/-- The reads of a call that wants so many bytes after those that were seen. Each starts at the
first byte of the frame, and after a busy answer there is another unless the time is over. -/
inductive Rounds (address : UInt8) (seen wanted : Nat) (deadline : Deadline) :
    List I2cEvent → Except Error Bytes → Prop where
  | answered {raw : Bytes} (ready : statusReady raw = true) :
      Rounds address seen wanted deadline [.read address (seen + wanted + 1) (.ok raw)]
        (.ok (raw.drop (1 + seen)))
  | refused (error : Error) :
      Rounds address seen wanted deadline [.read address (seen + wanted + 1) (.error error)]
        (.error error)
  | expired {raw : Bytes} {looks : List I2cEvent} (busy : statusReady raw = false)
      (passed : Looks deadline looks true) :
      Rounds address seen wanted deadline (.read address (seen + wanted + 1) (.ok raw) :: looks)
        (.error .timeout)
  | again {raw : Bytes} {looks rest : List I2cEvent} {result : Except Error Bytes}
      (busy : statusReady raw = false) (early : Looks deadline looks false)
      (rounds : Rounds address seen wanted deadline rest result) :
      Rounds address seen wanted deadline
        (.read address (seen + wanted + 1) (.ok raw) :: looks ++ rest) result

variable {address : UInt8} {frame handed piece left : Bytes} {later : List Bytes}

/-- The port stands where it stood, and the host did this beside. -/
structure Beside (events : List I2cEvent) (before after : I2cPort (HinderedBus η)) : Prop where
  settings : after.settings = before.settings
  seen : after.seen = before.seen
  device : after.bus.device = before.bus.device
  ahead : after.bus.ahead = before.bus.ahead
  events : after.bus.events = before.bus.events ++ events

theorem Reading.beside {events : List I2cEvent} {after : I2cPort (HinderedBus η)}
    (reading : Reading address frame later handed port) (same : Beside events port after) :
    Reading address frame later handed after where
  address := same.settings ▸ reading.address
  willing := same.device ▸ reading.willing
  pending := same.device ▸ reading.pending
  seen := same.seen ▸ reading.seen

theorem Beside.nothing (port : I2cPort (HinderedBus η)) : Beside [] port port :=
  ⟨rfl, rfl, rfl, rfl, (List.append_nil _).symm⟩

theorem now_beside [Host η] (port : I2cPort (HinderedBus η)) :
    Beside [.looked (Host.now port.bus.host).1] port (Host.now port).2 :=
  ⟨rfl, rfl, rfl, rfl, rfl⟩

theorem sleep_beside [Host η] (milliseconds : Nat) (port : I2cPort (HinderedBus η)) :
    Beside [] port (Host.sleep milliseconds port) :=
  ⟨rfl, rfl, rfl, rfl, (List.append_nil _).symm⟩

theorem record_beside [Host η] (notice : Notice) (port : I2cPort (HinderedBus η)) :
    Beside [] port (Host.record notice port) :=
  ⟨rfl, rfl, rfl, rfl, (List.append_nil _).symm⟩

theorem after_sets [Host η] (timeoutMs patience : Nat) (port : I2cPort (HinderedBus η)) :
    ∃ looks deadline after, Deadline.after timeoutMs patience port = .done deadline after ∧
      Sets timeoutMs looks deadline ∧ Beside looks port after := by
  unfold Deadline.after
  split
  case isTrue unlimited =>
    exact ⟨_, _, port, rfl, .never unlimited, .nothing port⟩
  case isFalse limited => exact ⟨_, _, _, rfl, .limit _ limited, now_beside port⟩

theorem expired_looks [Host η] (deadline : Deadline) (patience : Nat)
    (port : I2cPort (HinderedBus η)) :
    ∃ looks passed after, deadline.expired patience port = .done passed after ∧
      Looks deadline looks passed ∧ Beside looks port after := by
  obtain ⟨_ | limit⟩ := deadline
  · exact ⟨_, _, port, rfl, .never, .nothing port⟩
  · have looked : Deadline.expired ⟨some limit⟩ patience port =
        .done (decide (limit ≤ (Host.now port.bus.host).1)) (Host.now port).2 := rfl
    by_cases reached : limit ≤ (Host.now port.bus.host).1
    · rw [decide_eq_true reached] at looked
      exact ⟨_, _, _, looked, .late reached, now_beside port⟩
    · rw [decide_eq_false reached] at looked
      exact ⟨_, _, _, looked, .early (Nat.lt_of_not_le reached), now_beside port⟩

/-! ### One call -/

/-- What a call leaves. A failure used up one of the hindrances at least. -/
def Leaves (address : UInt8) (frame : Bytes) (later : List Bytes) (handed piece : Bytes)
    (before : I2cPort (HinderedBus η)) : Except Error Bytes → I2cPort (HinderedBus η) → Prop
  | .ok bytes, after => bytes = piece ∧ Reading address frame later (handed ++ piece) after ∧
      after.bus.ahead.length ≤ before.bus.ahead.length
  | .error _, after => Reading address frame later handed after ∧
      after.bus.ahead.length < before.bus.ahead.length

theorem Leaves.of_le {middle : I2cPort (HinderedBus η)} {result : Except Error Bytes}
    {after : I2cPort (HinderedBus η)}
    (leaves : Leaves address frame later handed piece middle result after)
    (fewer : middle.bus.ahead.length ≤ port.bus.ahead.length) :
    Leaves address frame later handed piece port result after := by
  cases result with
  | ok bytes =>
    obtain ⟨same, reading, used⟩ := leaves
    exact ⟨same, reading, Nat.le_trans used fewer⟩
  | error error =>
    obtain ⟨reading, used⟩ := leaves
    exact ⟨reading, Nat.lt_of_lt_of_le used fewer⟩

/-- A read that reaches the controller covers what was handed on and the piece that is wanted. -/
theorem Reading.through (reading : Reading address frame later handed port)
    (whole : frame = handed ++ piece ++ left) (more : piece ≠ []) (patience : Nat)
    (free : port.bus.hindrance? = none) :
    ∃ bus, I2cPort.read (handed.length + piece.length + 1) patience port =
        .done (0x01 :: (handed ++ piece)) { port with bus } ∧
      bus.events = port.bus.events ++ [.read address (handed.length + piece.length + 1)
        (.ok (0x01 :: (handed ++ piece)))] ∧
      bus.ahead = port.bus.ahead.tail ∧ bus.device.refusedReads = 0 ∧
      bus.device.frames = if handed ++ piece = frame then later else frame :: later := by
  -- A piece is still to come, so the frame is the pending one.
  have unread : handed ≠ frame := by
    intro same
    have size := congrArg List.length (same.trans whole)
    have some : 0 < piece.length := List.length_pos_iff.mpr more
    simp only [List.length_append] at size
    omega
  have pending := reading.pending
  rw [if_neg unread, whole] at pending
  have does := I2cDevice.read_pending reading.willing pending
  rw [List.length_append] at does
  have covers : handed ++ piece = frame ↔ left = [] := by
    rw [whole]
    simp
  refine ⟨_, read_of_bus (HinderedBus.read_through free does), ?_, rfl, reading.willing, ?_⟩
  · rw [reading.address]
  · rw [whole] at covers ⊢
    simp only [covers]

theorem Reading.busy (reading : Reading address frame later handed port) {answer : Bytes}
    {unready : statusReady answer = false} (length patience : Nat)
    (next : port.bus.hindrance? = some (.busy answer unready)) :
    ∃ after, I2cPort.read length patience port = .done answer after ∧
      Reading address frame later handed after ∧
      after.bus.ahead.length < port.bus.ahead.length ∧
      after.bus.events = port.bus.events ++ [.read address length (.ok answer)] := by
  refine ⟨_, read_of_bus (HinderedBus.read_hindered next), ?_,
    HinderedBus.tail_lt_of_hindrance next, ?_⟩
  · exact ⟨reading.address, reading.willing, reading.pending, reading.seen⟩
  · rw [← reading.address]
    rfl

theorem Reading.refused (reading : Reading address frame later handed port) {error : Error}
    (length patience : Nat) (next : port.bus.hindrance? = some (.refused error)) :
    ∃ after, I2cPort.read length patience port = .failed error after ∧
      Reading address frame later handed after ∧
      after.bus.ahead.length < port.bus.ahead.length ∧
      after.bus.events = port.bus.events ++ [.read address length (.error error)] := by
  refine ⟨_, read_of_refusing (HinderedBus.read_hindered next), ?_,
    HinderedBus.tail_lt_of_hindrance next, ?_⟩
  · exact ⟨reading.address, reading.willing, reading.pending, reading.seen⟩
  · rw [← reading.address]
    rfl

/-- Induction on the rounds that the observer stays for. Each of them that does not end the call
uses up a hindrance. -/
theorem Reading.readFrom [Host η] (reading : Reading address frame later handed port)
    (whole : frame = handed ++ piece ++ left) (more : piece ≠ []) (deadline : Deadline)
    (patience rounds : Nat) (enough : port.bus.ahead.length < rounds) :
    (readFrom handed.length (handed.length + piece.length) deadline rounds patience port).Ends
      fun result after => Leaves address frame later handed piece port result after ∧
        ∃ events, after.bus.events = port.bus.events ++ events ∧
          Rounds address handed.length piece.length deadline events result := by
  induction rounds generalizing port with
  | zero => omega
  | succ rounds ih =>
    unfold I2cPort.readFrom
    cases next : port.bus.hindrance? with
    | none =>
      obtain ⟨bus, answers, events, ahead, willing, pending⟩ :=
        reading.through whole more patience next
      rw [bind_of_done answers]
      have ready : statusReady (0x01 :: (handed ++ piece)) = true := by
        change (1 : UInt8).toNat.testBit 0 = true
        decide
      have long : ¬ (0x01 :: (handed ++ piece)).length < handed.length + piece.length + 1 := by
        simp
      -- What was handed on before is dropped behind the status octet.
      have fresh : (0x01 :: (handed ++ piece)).drop (1 + handed.length) = piece := by
        rw [Nat.add_comm, List.drop_succ_cons, List.drop_left]
      simp only [ready, if_true, if_neg long, fresh]
      refine ⟨⟨rfl, ⟨reading.address, willing, pending, ?_⟩, ?_⟩, ⟨_, events, ?_⟩⟩
      · exact List.length_append.symm
      · change bus.ahead.length ≤ _
        rw [ahead, List.length_tail]
        omega
      · have answered := @Rounds.answered address handed.length piece.length deadline _ ready
        rwa [fresh] at answered
    | some hindrance =>
      cases hindrance with
      | refused error =>
        obtain ⟨after, fails, kept, used, events⟩ := reading.refused _ patience next
        rw [bind_of_failed fails]
        exact ⟨⟨kept, used⟩, _, events, .refused error⟩
      | busy answer unready =>
        obtain ⟨asked, answers, kept, used, events⟩ := reading.busy _ patience next
        rw [bind_of_done answers]
        simp only [unready, Bool.false_eq_true, if_false]
        obtain ⟨looks, passed, checked, does, look, beside⟩ :=
          expired_looks deadline patience asked
        rw [bind_of_done does]
        have kept := kept.beside beside
        cases passed with
        | true =>
          refine ⟨⟨kept, ?_⟩, _, ?_, .expired unready look⟩
          · rw [beside.ahead]
            exact used
          · rw [beside.events, events, List.append_assoc]
            rfl
        | false =>
          -- The host pauses, and the rest of the call starts from a state like the one before.
          have paused := sleep_beside pollIntervalMs checked
          have fewer : (Host.sleep pollIntervalMs checked).bus.ahead.length <
              port.bus.ahead.length := by
            rw [paused.ahead, beside.ahead]
            exact used
          have rest := ih (kept.beside paused) (by omega)
          apply Ends.mono rest
          rintro result after ⟨leaves, found, seen, rounds⟩
          refine ⟨leaves.of_le (Nat.le_of_lt fewer), _, ?_, .again unready look rounds⟩
          rw [seen, paused.events, beside.events, events]
          simp

/-- What a call does: it asks for a repetition if some of the frame was handed on, sets its
deadline, and reads. -/
def Calls (address : UInt8) (handed : Bytes) (wanted timeoutMs : Nat) (events : List I2cEvent)
    (result : Except Error Bytes) : Prop :=
  ∃ looks deadline reads,
    events = (if handed = [] then [] else [.written address Ack.negative]) ++ looks ++ reads ∧
      Sets timeoutMs looks deadline ∧
      Rounds address handed.length wanted deadline reads result

/-- A request to repeat a frame is not a command, whatever replies are in store. -/
theorem Reading.again (reading : Reading address frame later handed port) (patience : Nat) :
    ∃ after, I2cPort.write Ack.negative patience port = .done () after ∧
      Reading address frame later handed after ∧
      after.bus.ahead = port.bus.ahead ∧
      after.bus.events = port.bus.events ++ [.written address Ack.negative] := by
  have does : port.bus.write port.settings.address Ack.negative = (.ok (), { port.bus with
      device := { port.bus.device with
        writes := port.bus.device.writes ++ [(port.settings.address, Ack.negative)] }
      events := port.bus.events ++ [.written port.settings.address Ack.negative] }) := by
    simp only [HinderedBus.write, I2cDevice.write_negative]
  refine ⟨_, write_of_bus does, ?_, rfl, ?_⟩
  · exact ⟨reading.address, reading.willing, reading.pending, reading.seen⟩
  · rw [← reading.address]

/-- With or without a request to repeat the frame, the call goes on like this. -/
theorem Reading.reread [Host η] (reading : Reading address frame later handed port)
    (whole : frame = handed ++ piece ++ left) (more : piece ≠ []) (timeoutMs patience : Nat)
    (enough : port.bus.ahead.length < patience) :
    ((do
      let deadline ← Deadline.after timeoutMs
      let rounds ← Action.patience
      I2cPort.readFrom handed.length (handed.length + piece.length) deadline rounds)
        patience port).Ends
      fun result after => Leaves address frame later handed piece port result after ∧
        ∃ looks deadline reads, after.bus.events = port.bus.events ++ (looks ++ reads) ∧
          Sets timeoutMs looks deadline ∧
          Rounds address handed.length piece.length deadline reads result := by
  obtain ⟨looks, deadline, set, does, sets, beside⟩ := after_sets timeoutMs patience port
  rw [bind_of_done does, patience_bind]
  have enough : set.bus.ahead.length < patience := by
    rw [beside.ahead]
    exact enough
  apply Ends.mono ((reading.beside beside).readFrom whole more deadline patience patience enough)
  rintro result after ⟨leaves, reads, seen, rounds⟩
  have same : set.bus.ahead.length = port.bus.ahead.length := congrArg List.length beside.ahead
  refine ⟨leaves.of_le (Nat.le_of_eq same), looks, deadline, reads, ?_, sets, rounds⟩
  rw [seen, beside.events, List.append_assoc]

theorem Reading.receive [Host η] (reading : Reading address frame later handed port)
    (whole : frame = handed ++ piece ++ left) (more : piece ≠ []) (timeoutMs patience : Nat)
    (enough : port.bus.ahead.length < patience) :
    (receive piece.length timeoutMs patience port).Ends
      fun result after => Leaves address frame later handed piece port result after ∧
        ∃ events, after.bus.events = port.bus.events ++ events ∧
          Calls address handed piece.length timeoutMs events result := by
  unfold I2cPort.receive
  rw [get_bind, reading.seen]
  by_cases start : handed = []
  · have none : ¬ handed.length > 0 := by simp [start]
    simp only [if_neg none]
    apply Ends.mono (reading.reread whole more timeoutMs patience enough)
    rintro result after ⟨leaves, looks, deadline, reads, seen, sets, rounds⟩
    refine ⟨leaves, _, seen, looks, deadline, reads, ?_, sets, rounds⟩
    rw [if_pos start, List.nil_append]
  · have some : handed.length > 0 := List.length_pos_iff.mpr start
    simp only [if_pos some]
    rw [note_bind]
    have noted := record_beside (.rereading handed.length) port
    obtain ⟨asked, does, kept, ahead, events⟩ := (reading.beside noted).again patience
    rw [bind_of_done does]
    rw [noted.ahead] at ahead
    rw [noted.events, List.append_nil] at events
    apply Ends.mono (kept.reread whole more timeoutMs patience (by rwa [ahead]))
    rintro result after ⟨leaves, looks, deadline, reads, seen, sets, rounds⟩
    have same : asked.bus.ahead.length = port.bus.ahead.length := congrArg List.length ahead
    refine ⟨leaves.of_le (Nat.le_of_eq same), _, ?_, looks, deadline, reads, rfl, sets, rounds⟩
    rw [if_neg start, seen, events]
    simp

theorem Sets.writes {timeoutMs : Nat} {looks : List I2cEvent} {deadline : Deadline}
    (sets : Sets timeoutMs looks deadline) : looks.filterMap I2cEvent.written? = [] := by
  cases sets with
  | never unlimited => rfl
  | limit instant limited => rfl

theorem Looks.writes {deadline : Deadline} {looks : List I2cEvent} {passed : Bool}
    (look : Looks deadline looks passed) : looks.filterMap I2cEvent.written? = [] := by
  cases look with
  | never => rfl
  | early before => rfl
  | late reached => rfl

theorem Rounds.writes {seen wanted : Nat} {deadline : Deadline} {reads : List I2cEvent}
    {result : Except Error Bytes} (rounds : Rounds address seen wanted deadline reads result) :
    reads.filterMap I2cEvent.written? = [] := by
  induction rounds with
  | answered ready => rfl
  | refused error => rfl
  | expired busy passed => exact passed.writes
  | again busy early rounds ih =>
    rw [List.cons_append, List.filterMap_cons_none rfl, List.filterMap_append, early.writes, ih,
      List.append_nil]

/-- A call writes once at its start in the middle of a frame, and else not at all. -/
theorem Calls.writes {wanted timeoutMs : Nat} {events : List I2cEvent}
    {result : Except Error Bytes} (calls : Calls address handed wanted timeoutMs events result) :
    events.filterMap I2cEvent.written? =
      if handed = [] then [] else [(address, Ack.negative)] := by
  obtain ⟨looks, deadline, reads, rfl, sets, rounds⟩ := calls
  simp only [List.filterMap_append, sets.writes, rounds.writes, List.append_nil]
  split <;> rfl

end I2cPort

end NfcLink
