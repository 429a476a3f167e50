import NfcLink.Proofs.Handshake.Monitored
import NfcLink.Proofs.Handshake.Overheard
import NfcLink.Proofs.Returns
import NfcLink.Sim.Serial
import NfcLink.Tap

/-!
# Bytes in order

The bytes that came over a line make one stream: first what it has handed over, then what it
holds. Whatever is asked of a port, the stream grows at its end only, so a byte is known by its
place in it, and what is received is a part of what was handed over in the meantime.
-/
namespace NfcLink

open NfcLink.Action Outcome

/-- Bytes may come in at any time and a read may bring as few as it likes, but none is lost and
none overtakes another. -/
structure SerialLine.InOrder {σ : Type} [Host σ] [SerialLine σ] (held : σ → Bytes)
    (patience : Nat) : Prop where
  looked : ∀ state, held state <+: held (Host.now state).2
  noted : ∀ state notice, held state <+: held (Host.record notice state)
  setBaud : ∀ baudRate state, (SerialLine.setBaud baudRate patience state).IfEnds fun _ after =>
    held state <+: held after
  write : ∀ data state, (SerialLine.write data patience state).IfEnds fun _ after =>
    held state <+: held after
  read : ∀ length waitMs state,
    (SerialLine.read length waitMs patience state).IfEnds fun result after =>
      held state <+: result.toOption.getD [] ++ held after
  buffered : ∀ state, (SerialLine.buffered patience state).IfEnds fun result after =>
    held state <+: held after ∧ ∀ count, result = .ok count → (held state).length ≤ count

/-! ### The stream of a line -/

namespace Monitored

variable {σ : Type} {held : σ → Bytes} {before between after : Monitored σ}

/-- All that came over the line since it is monitored: what it handed over, and what it holds. -/
def stream (held : σ → Bytes) (monitored : Monitored σ) : Bytes :=
  LineRead.brought monitored.reads ++ held monitored.inner

/-- What was held comes first in what was handed over since and is held now. -/
theorem held_prefix_of_stream {reads : List LineRead} (noted : after.reads = before.reads ++ reads)
    (came : before.stream held <+: after.stream held) :
    held before.inner <+: LineRead.brought reads ++ held after.inner := by
  unfold stream at came
  rwa [noted, LineRead.brought_append, List.append_assoc, List.prefix_append_right_inj] at came

/-- One state of a line is earlier than the other. -/
structure Precedes (held : σ → Bytes) (before after : Monitored σ) : Prop where
  reads : before.reads <+: after.reads
  stream : before.stream held <+: after.stream held

theorem Precedes.refl (monitored : Monitored σ) : Precedes held monitored monitored :=
  ⟨List.prefix_refl _, List.prefix_refl _⟩

theorem Precedes.trans (earlier : Precedes held before between)
    (later : Precedes held between after) : Precedes held before after :=
  ⟨earlier.reads.trans later.reads, earlier.stream.trans later.stream⟩

/-- Nothing was read in between, and what was held is held still. -/
structure Rests (held : σ → Bytes) (before after : Monitored σ) : Prop where
  reads : after.reads = before.reads
  held : held before.inner <+: held after.inner

theorem Rests.stream (rests : Rests held before after) :
    before.stream held <+: after.stream held := by
  unfold Monitored.stream
  rw [rests.reads]
  exact (List.prefix_append_right_inj _).mpr rests.held

theorem Rests.precedes (rests : Rests held before after) : Precedes held before after :=
  ⟨rests.reads ▸ List.prefix_refl _, rests.stream⟩

theorem read_ordered [Host σ] [SerialLine σ] {patience : Nat}
    (line : SerialLine.InOrder held patience) (wanted waitMs : Nat) (monitored : Monitored σ) :
    (SerialLine.read wanted waitMs patience monitored).IfEnds fun result after =>
      after.reads = monitored.reads ++ [⟨wanted, waitMs, result⟩] ∧
        monitored.stream held <+: after.stream held := by
  rw [ifEnds_iff]
  intro result after ended
  rw [read_ended] at ended
  obtain ⟨⟨found, inner⟩, begun, same⟩ := Option.map_eq_some_iff.mp ended
  cases same
  have brings : held monitored.inner <+: result.toOption.getD [] ++ held inner := by
    split at begun
    · -- The line was cut, and is as it was.
      cases begun
      exact List.prefix_refl _
    · exact (ifEnds_iff ..).mp (line.read wanted waitMs monitored.inner) _ _ begun
  refine ⟨rfl, ?_⟩
  unfold stream
  rw [LineRead.brought_append, LineRead.brought_singleton, List.append_assoc]
  exact (List.prefix_append_right_inj _).mpr brings

end Monitored

namespace SerialPort

open Monitored

variable {σ α β : Type} {held : σ → Bytes} {patience : Nat}

/-! ### What a port does to it -/

/-- However the action ends, the line has only gone on. -/
def GoesOn (held : σ → Bytes) (patience : Nat) (act : Action (SerialPort (Monitored σ)) α) :
    Prop :=
  ∀ before, (act patience before).IfEnds fun _ after => Precedes held before.bus after.bus

theorem goesOn_pure (answer : α) : GoesOn held patience (pure answer) :=
  fun before => Precedes.refl before.bus

theorem goesOn_fail (error : Error) :
    GoesOn held patience (fail error : Action (SerialPort (Monitored σ)) α) :=
  fun before => Precedes.refl before.bus

theorem goesOn_unfinished :
    GoesOn held patience (unfinished : Action (SerialPort (Monitored σ)) α) :=
  fun _ => True.intro

theorem goesOn_get :
    GoesOn held patience (get : Action (SerialPort (Monitored σ)) (SerialPort (Monitored σ))) :=
  fun before => Precedes.refl before.bus

theorem goesOn_patience :
    GoesOn held patience (Action.patience : Action (SerialPort (Monitored σ)) Nat) :=
  fun before => Precedes.refl before.bus

theorem goesOn_bind {first : Action (SerialPort (Monitored σ)) α}
    {next : α → Action (SerialPort (Monitored σ)) β} (start : GoesOn held patience first)
    (rest : ∀ answer, GoesOn held patience (next answer)) :
    GoesOn held patience (first >>= next) := by
  intro before
  refine ifEnds_bind (start before) (fun _ _ precedes => precedes) ?_
  intro answer between earlier
  exact (rest answer between).mono fun _ _ later => earlier.trans later

theorem goesOn_ite {condition : Prop} [Decidable condition]
    {yes no : Action (SerialPort (Monitored σ)) α} (first : GoesOn held patience yes)
    (second : GoesOn held patience no) :
    GoesOn held patience (if condition then yes else no) := by
  split
  · exact first
  · exact second

variable [Host σ] [SerialLine σ] (line : SerialLine.InOrder held patience)
include line

theorem clock_rests (port : SerialPort (Monitored σ)) :
    Rests held port.bus (Host.now port).2.bus :=
  ⟨rfl, line.looked port.bus.inner⟩

theorem note_rests (port : SerialPort (Monitored σ)) (notice : Notice) :
    Rests held port.bus (Host.record notice port).bus :=
  ⟨rfl, line.noted port.bus.inner notice⟩

theorem write_rests (data : Bytes) (port : SerialPort (Monitored σ)) :
    (write data patience port).IfEnds fun _ after => Rests held port.bus after.bus := by
  apply ifEnds_on
  apply ifEnds_on
  exact (line.write data port.bus.inner).mono fun _ _ kept => ⟨rfl, kept⟩

theorem buffered_rests (port : SerialPort (Monitored σ)) :
    ((SerialLine.buffered : Action (Monitored σ) Nat).on busPart patience port).IfEnds
      fun result after => Rests held port.bus after.bus ∧
        ∀ count, result = .ok count → (held port.bus.inner).length ≤ count := by
  apply ifEnds_on
  apply ifEnds_on
  exact (line.buffered port.bus.inner).mono fun _ _ ⟨kept, all⟩ => ⟨⟨rfl, kept⟩, all⟩

theorem goesOn_note (notice : Notice) :
    GoesOn held patience (Host.note notice : Action (SerialPort (Monitored σ)) Unit) :=
  fun before => (note_rests line before notice).precedes

theorem goesOn_clock :
    GoesOn held patience (Host.clock : Action (SerialPort (Monitored σ)) Nat) :=
  fun before => (clock_rests line before).precedes

theorem goesOn_read (length waitMs : Nat) :
    GoesOn held patience (read length waitMs : Action (SerialPort (Monitored σ)) Bytes) := by
  intro before
  apply ifEnds_on
  refine (read_ordered line length waitMs before.bus).mono ?_
  rintro result after ⟨noted, came⟩
  exact ⟨⟨_, noted.symm⟩, came⟩

theorem goesOn_write (data : Bytes) :
    GoesOn held patience (write data : Action (SerialPort (Monitored σ)) Unit) :=
  fun before => (write_rests line data before).mono fun _ _ rests => rests.precedes

theorem goesOn_after (timeoutMs : Nat) :
    GoesOn held patience
      (Deadline.after timeoutMs : Action (SerialPort (Monitored σ)) Deadline) :=
  goesOn_ite (goesOn_pure _) (goesOn_bind (goesOn_clock line) fun _ => goesOn_pure _)

theorem goesOn_expired (deadline : Deadline) :
    GoesOn held patience (deadline.expired : Action (SerialPort (Monitored σ)) Bool) := by
  unfold Deadline.expired
  split
  · exact goesOn_pure _
  · exact goesOn_bind (goesOn_clock line) fun _ => goesOn_pure _

theorem goesOn_remainingMs (deadline : Deadline) :
    GoesOn held patience
      (deadline.remainingMs : Action (SerialPort (Monitored σ)) (Option Nat)) := by
  unfold Deadline.remainingMs
  split
  · exact goesOn_pure _
  · exact goesOn_bind (goesOn_clock line) fun _ => goesOn_pure _

/-- Induction on the rounds that the observer stays for. -/
theorem goesOn_gather (wanted : Nat) (deadline : Deadline) (rounds : Nat) (gathered : Bytes) :
    GoesOn held patience
      (gather wanted deadline rounds gathered : Action (SerialPort (Monitored σ)) Bytes) := by
  induction rounds generalizing gathered with
  | zero =>
    unfold gather
    exact goesOn_ite (goesOn_pure _) goesOn_unfinished
  | succ rounds ih =>
    unfold gather
    apply goesOn_ite (goesOn_pure _)
    apply goesOn_bind (goesOn_remainingMs line deadline)
    intro remaining
    split
    · exact goesOn_pure _
    · apply goesOn_bind (goesOn_read line _ _)
      intro piece
      apply goesOn_ite
      · apply goesOn_bind (goesOn_expired line deadline)
        intro passed
        exact goesOn_ite (goesOn_pure _) (ih gathered)
      · exact ih (gathered ++ piece)

theorem goesOn_receive (wanted timeoutMs : Nat) :
    GoesOn held patience
      (receive wanted timeoutMs : Action (SerialPort (Monitored σ)) Bytes) := by
  apply goesOn_bind (goesOn_after line timeoutMs)
  intro deadline
  apply goesOn_bind goesOn_patience
  intro rounds
  apply goesOn_bind (goesOn_gather line wanted deadline rounds [])
  intro bytes
  apply goesOn_bind (goesOn_note line _)
  intro _
  exact goesOn_ite (goesOn_bind (goesOn_note line _) fun _ => goesOn_fail _) (goesOn_pure _)

theorem goesOn_setBaud (baudRate : Nat) :
    GoesOn held patience
      ((SerialLine.setBaud baudRate : Action (Monitored σ) Unit).on busPart) := by
  intro before
  apply ifEnds_on
  apply ifEnds_on
  refine (line.setBaud baudRate before.bus.inner).mono ?_
  intro _ after kept
  exact Rests.precedes ⟨rfl, kept⟩

theorem goesOn_dropStale :
    GoesOn held patience (dropStale : Action (SerialPort (Monitored σ)) Unit) := by
  apply goesOn_bind fun before => (buffered_rests line before).mono fun _ _ kept => kept.1.precedes
  intro pending
  apply goesOn_ite
  · exact goesOn_bind (goesOn_read line _ _) fun _ => goesOn_note line _
  · exact goesOn_pure _

theorem goesOn_perform (operation : TransportOperation) :
    GoesOn held patience
      (operation.perform : Action (SerialPort (Monitored σ)) operation.Answer) := by
  cases operation with
  | openBus => exact goesOn_bind goesOn_get fun _ => goesOn_setBaud line _
  | wake => exact goesOn_bind (goesOn_write line _) fun _ => goesOn_dropStale line
  | poll => exact goesOn_pure true
  | send data =>
    apply goesOn_bind (goesOn_dropStale line)
    intro _
    exact goesOn_bind (goesOn_write line _) fun _ => goesOn_write line _
  | receive wanted timeoutMs => exact goesOn_receive line wanted timeoutMs

end SerialPort

/-! ### What is heard of a port -/

/-- One after the other, whatever comes of each. -/
def TransportOperation.performEach {σ : Type} [Transport σ] :
    List TransportOperation → Action σ Unit
  | [] => pure ()
  | operation :: operations => do
    let _ ← operation.perform.attempt
    performEach operations

namespace Overheard

variable {σ α : Type} {held : σ → Bytes} {patience : Nat}
variable {before between after : Overheard (SerialPort (Monitored σ))}

/-- What was received in between was handed over in between, in this order. -/
def Follows (held : σ → Bytes) (before after : Overheard (SerialPort (Monitored σ))) : Prop :=
  ∃ calls reads, after.calls = before.calls ++ calls ∧
    after.inner.bus.reads = before.inner.bus.reads ++ reads ∧
    (receivedIn calls).Sublist (LineRead.brought reads) ∧
    before.inner.bus.stream held <+: after.inner.bus.stream held

theorem Follows.refl (overheard : Overheard (SerialPort (Monitored σ))) :
    Follows held overheard overheard :=
  ⟨[], [], (List.append_nil _).symm, (List.append_nil _).symm, .slnil, List.prefix_refl _⟩

theorem Follows.trans (earlier : Follows held before between)
    (later : Follows held between after) : Follows held before after := by
  obtain ⟨calls, reads, called, read, received, came⟩ := earlier
  obtain ⟨moreCalls, moreReads, calledThen, readThen, receivedThen, cameThen⟩ := later
  refine ⟨calls ++ moreCalls, reads ++ moreReads, ?_, ?_, ?_, came.trans cameThen⟩
  · rw [calledThen, called, List.append_assoc]
  · rw [readThen, read, List.append_assoc]
  · rw [receivedIn_append, LineRead.brought_append]
    exact received.append receivedThen

theorem call_follows {seen : Except Error α → TransportCall}
    {act : Action (SerialPort (Monitored σ)) α}
    (ends : (act patience before.inner).IfEnds fun result after => ∃ reads,
      after.bus.reads = before.inner.bus.reads ++ reads ∧
        (seen result).brings.Sublist (LineRead.brought reads) ∧
        before.inner.bus.stream held <+: after.bus.stream held) :
    (call seen act patience before).IfEnds fun _ after => Follows held before after := by
  rw [ifEnds_iff]
  intro result after ended
  rw [call_ended] at ended
  obtain ⟨⟨_, inner⟩, begun, same⟩ := Option.map_eq_some_iff.mp ended
  cases same
  obtain ⟨reads, noted, received, came⟩ := (ifEnds_iff ..).mp ends _ _ begun
  refine ⟨[seen result], reads, rfl, noted, ?_, came⟩
  rw [receivedIn, List.flatMap_singleton]
  exact received

theorem silent_follows {seen : Except Error α → TransportCall}
    {act : Action (SerialPort (Monitored σ)) α} (goesOn : SerialPort.GoesOn held patience act)
    (silent : ∀ result, (seen result).brings = []) :
    (call seen act patience before).IfEnds fun _ after => Follows held before after := by
  apply call_follows
  refine (goesOn before.inner).mono ?_
  rintro result after ⟨⟨reads, noted⟩, came⟩
  exact ⟨reads, noted.symm, silent result ▸ List.nil_sublist _, came⟩

variable [Host σ] [SerialLine σ] (line : SerialLine.InOrder held patience)
include line

theorem perform_follows (operation : TransportOperation)
    (before : Overheard (SerialPort (Monitored σ))) :
    (operation.perform patience before).IfEnds fun _ after => Follows held before after := by
  have goesOn := SerialPort.goesOn_perform line operation
  cases operation with
  | openBus => exact silent_follows goesOn fun _ => rfl
  | wake => exact silent_follows goesOn fun _ => rfl
  | poll => exact silent_follows goesOn fun _ => rfl
  | send data => exact silent_follows goesOn fun _ => rfl
  | receive wanted timeoutMs =>
    -- The only call that brings bytes answers what its reads brought, all of it or nothing.
    apply call_follows
    refine (SerialPort.receive_gathers.and (goesOn before.inner)).mono ?_
    rintro result after ⟨⟨reads, noted, -, gathers⟩, precedes⟩
    refine ⟨reads, noted, ?_, precedes.stream⟩
    cases result with
    | ok bytes => exact (gathers bytes rfl).1 ▸ List.Sublist.refl _
    | error error => exact List.nil_sublist _

/-- Induction on the operations. -/
theorem performEach_follows (operations : List TransportOperation)
    (before : Overheard (SerialPort (Monitored σ))) :
    (TransportOperation.performEach operations patience before).IfEnds fun _ after =>
      Follows held before after := by
  induction operations generalizing before with
  | nil => exact Follows.refl before
  | cons operation operations ih =>
    have performed : (operation.perform.attempt patience before).IfEnds fun _ after =>
        Follows held before after := ifEnds_attempt (perform_follows line operation before)
    refine ifEnds_bind performed (fun _ _ follows => follows) ?_
    intro _ between earlier
    exact (ih between).mono fun _ _ later => earlier.trans later

end Overheard

/-! ### The simulated line, and a tap on a line -/

theorem Bench.step_ifEnds {δ α : Type} {act : δ → Except Error α × δ} {patience : Nat}
    {bench : Bench δ} {post : Except Error α → Bench δ → Prop}
    (holds : post (act bench.device).1 { bench with device := (act bench.device).2 }) :
    (Bench.step act patience bench).IfEnds post := by
  simp only [Bench.step, Action.ofStep]
  cases does : act bench.device with
  | mk answer device =>
    rw [does] at holds
    cases answer with
    | ok answer => exact holds
    | error error => exact holds

theorem SerialDevice.write_buffer (data : Bytes) (device : SerialDevice) :
    device.buffer <+: (device.write data).2.buffer := by
  unfold SerialDevice.write
  dsimp only
  split
  · exact List.prefix_append _ _
  · exact List.prefix_refl _

theorem SerialDevice.inOrder (patience : Nat) :
    SerialLine.InOrder (fun bench : Bench SerialDevice => bench.device.buffer) patience where
  looked bench := List.prefix_refl bench.device.buffer
  noted bench _ := List.prefix_refl bench.device.buffer
  setBaud _ bench := List.prefix_refl bench.device.buffer
  write data bench := Bench.step_ifEnds (SerialDevice.write_buffer data bench.device)
  read length waitMs bench := by
    have pauses : (Host.pause waitMs patience bench).IfEnds fun result after =>
        result = .ok () ∧ after.device = bench.device := by
      unfold Host.pause
      split
      · exact ⟨rfl, rfl⟩
      · exact ⟨rfl, Bench.elapse_device bench waitMs⟩
    have handed (waited : Bench SerialDevice) :
        (Bench.step (SerialDevice.read length) patience waited).IfEnds fun result after =>
          waited.device.buffer <+: result.toOption.getD [] ++ after.device.buffer :=
      Bench.step_ifEnds (List.take_append_drop length waited.device.buffer ▸ List.prefix_refl _)
    change ((if bench.device.buffer.isEmpty then do
        Host.pause waitMs
        Bench.step (SerialDevice.read length)
      else Bench.step (SerialDevice.read length)) patience bench).IfEnds _
    split
    · -- The read of an empty buffer lasts, which leaves the buffer alone.
      refine ifEnds_bind pauses (fun _ _ stopped => nomatch stopped.1) ?_
      rintro _ waited ⟨-, same⟩
      rw [← same]
      exact handed waited
    · exact handed bench
  buffered bench := by
    refine Bench.step_ifEnds ⟨List.prefix_refl bench.device.buffer, ?_⟩
    rintro _ ⟨rfl⟩
    exact Nat.le_refl _

namespace Tapped

variable {σ α : Type} {patience : Nat} {tap : Tapped σ}

/-- A transaction that is let pass starts where the tap was, and one that fails leaves what is
below the tap alone. -/
theorem transaction_ifEnds {event : Event} {act : Action (Tapped σ) α}
    (post : Except Error α → σ → Prop) (fails : post (.error injected) tap.inner)
    (passes : ∀ same : Tapped σ, same.inner = tap.inner →
      (act patience same).IfEnds fun result after => post result after.inner) :
    (transaction event act patience tap).IfEnds fun result after => post result after.inner := by
  have recorded : (record event patience tap).IfEnds fun result after =>
      result = .ok () ∧ after.inner = tap.inner := ⟨rfl, rfl⟩
  refine ifEnds_bind recorded (fun _ _ stopped => nomatch stopped.1) ?_
  rintro _ noted ⟨-, same⟩
  rw [get_bind]
  split
  · rw [← same] at fails
    exact fails
  · exact passes _ same

theorem transaction_on_ifEnds {event : Event} {act : Action σ α}
    {post : Except Error α → σ → Prop} (fails : post (.error injected) tap.inner)
    (ends : (act patience tap.inner).IfEnds post) :
    (transaction event (act.on innerPart) patience tap).IfEnds fun result after =>
      post result after.inner := by
  apply transaction_ifEnds post fails
  intro same inner
  rw [← inner] at ends
  exact ifEnds_on ends

theorem nextChange_ifEnds :
    (nextChange patience tap).IfEnds fun result after =>
      after.inner = tap.inner ∧ ∃ change, result = .ok change := by
  unfold nextChange
  rw [get_bind]
  cases tap.changes with
  | nil => exact ⟨rfl, _, rfl⟩
  | cons change changes => exact ⟨rfl, _, rfl⟩

theorem inOrder [Host σ] [SerialLine σ] {held : σ → Bytes}
    (line : SerialLine.InOrder held patience) :
    SerialLine.InOrder (fun tap : Tapped σ => held tap.inner) patience where
  looked tap := line.looked tap.inner
  noted tap notice := line.noted tap.inner notice
  setBaud baudRate tap :=
    transaction_on_ifEnds (List.prefix_refl _) (line.setBaud baudRate tap.inner)
  write data tap := transaction_on_ifEnds (List.prefix_refl _) (line.write data tap.inner)
  read length waitMs tap := by
    have counted : ((SerialLine.buffered : Action σ Nat).on innerPart patience tap).IfEnds
        fun _ after => held tap.inner <+: held after.inner :=
      ifEnds_on ((line.buffered tap.inner).mono fun _ _ counted => counted.1)
    have reads (limit : Nat) {between : Tapped σ} (later : held tap.inner <+: held between.inner) :
        ((SerialLine.read limit waitMs).on innerPart patience between).IfEnds fun result after =>
          held tap.inner <+: result.toOption.getD [] ++ held after.inner :=
      ifEnds_on ((line.read limit waitMs between.inner).mono fun _ _ brings => later.trans brings)
    refine ifEnds_bind counted (fun _ _ later => later) ?_
    intro available between later
    split
    · exact reads length later
    · -- Where something is there the read is a transaction, and what it may bring may be limited.
      apply transaction_ifEnds
        (fun result inner => held tap.inner <+: result.toOption.getD [] ++ held inner) later
      intro same inner
      refine ifEnds_bind nextChange_ifEnds (fun _ _ stopped => nomatch stopped.2) ?_
      rintro change after ⟨still, -⟩
      rw [← inner, ← still] at later
      split
      · exact reads _ later
      · exact reads _ later
  buffered tap :=
    transaction_on_ifEnds ⟨List.prefix_refl _, nofun⟩ (line.buffered tap.inner)

end Tapped

end NfcLink
