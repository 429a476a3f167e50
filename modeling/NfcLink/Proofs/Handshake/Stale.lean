import Mathlib.Data.List.Infix
import NfcLink.Proofs.Handshake.Order

/-!
# Stale bytes

A wake-up and a command drop what the line holds, so that it is not taken for an
acknowledgement. They ask for all of it, but in one read, and a read may bring less than it was
asked for. What that read leaves stays in front of everything that comes later, and the next
receive answers it.
-/
namespace NfcLink

open NfcLink.Action Outcome

namespace Monitored

variable {σ : Type} {held : σ → Bytes} {before between after : Monitored σ}
variable {drained : List LineRead}

/-- All that was held was asked for in one read, if anything was. -/
structure Drains (held : σ → Bytes) (drained : List LineRead) (before after : Monitored σ) :
    Prop where
  reads : after.reads = before.reads ++ drained
  asked : drained = [] ∧ held before.inner = [] ∨
    ∃ read, drained = [read] ∧ (held before.inner).length ≤ read.wanted
  stream : before.stream held <+: after.stream held

theorem Drains.after_rest (rests : Rests held before between)
    (drains : Drains held drained between after) : Drains held drained before after := by
  refine ⟨rests.reads ▸ drains.reads, ?_, rests.stream.trans drains.stream⟩
  rcases drains.asked with ⟨nothing, empty⟩ | ⟨read, only, all⟩
  · exact .inl ⟨nothing, List.prefix_nil.mp (empty ▸ rests.held)⟩
  · exact .inr ⟨read, only, Nat.le_trans rests.held.length_le all⟩

theorem Drains.before_rest (drains : Drains held drained before between)
    (rests : Rests held between after) : Drains held drained before after :=
  ⟨rests.reads.trans drains.reads, drains.asked, drains.stream.trans rests.stream⟩

/-- What the read did not bring is held still, in front. -/
theorem Drains.left (drains : Drains held drained before after) :
    (held before.inner).drop (LineRead.brought drained).length <+: held after.inner := by
  have left := (held_prefix_of_stream drains.reads drains.stream).drop
    (LineRead.brought drained).length
  rwa [List.drop_left] at left

end Monitored

/-- The calls that are made before something new is asked of the controller. -/
def TransportOperation.Clears : TransportOperation → Prop
  | wake => True
  | send _ => True
  | _ => False

namespace SerialPort

open Monitored

section Cleared

variable {σ : Type} [Host σ] [SerialLine σ] {held : σ → Bytes} {patience : Nat}
variable {port cleared : SerialPort (Monitored σ)} {drained : List LineRead}

/-- Whatever is asked of the port after it was cleared, what is received came over the line
behind all that was there before. -/
def ReceivesFresh (held : σ → Bytes) (patience : Nat) (port cleared : SerialPort (Monitored σ)) :
    Prop :=
  ∀ operations : List TransportOperation,
    (TransportOperation.performEach operations patience
      ({ inner := cleared } : Overheard (SerialPort (Monitored σ)))).IfEnds fun _ last =>
        ∃ fresh, last.inner.bus.stream held = port.bus.stream held ++ fresh ∧
          (receivedIn last.calls).Sublist fresh

variable (line : SerialLine.InOrder held patience)
include line

/-! ### One read -/

theorem dropStale_drains (port : SerialPort (Monitored σ)) :
    (dropStale patience port).IfEnds fun result after =>
      result = .ok () → ∃ drained, Drains held drained port.bus after.bus := by
  unfold dropStale
  refine ifEnds_bind (buffered_rests line port) (fun _ _ _ => nofun) ?_
  rintro pending counted ⟨rests, all⟩
  have whole := all pending rfl
  split
  · have reading : (read pending 1 patience counted).IfEnds fun result after =>
        after.bus.reads = counted.bus.reads ++ [⟨pending, 1, result⟩] ∧
          counted.bus.stream held <+: after.bus.stream held :=
      ifEnds_on (read_ordered line pending 1 counted.bus)
    refine ifEnds_bind reading (fun _ _ _ => nofun) ?_
    rintro stale taken ⟨noted, came⟩ -
    have drains : Drains held [⟨pending, 1, .ok stale⟩] port.bus taken.bus :=
      ⟨rests.reads ▸ noted, .inr ⟨_, rfl, whole⟩, rests.stream.trans came⟩
    exact ⟨_, drains.before_rest (note_rests line taken _)⟩
  next none =>
    -- What counts as nothing was nothing.
    rintro -
    have empty : held port.bus.inner = [] :=
      List.eq_nil_of_length_eq_zero (Nat.le_zero.mp (Nat.le_trans whole (Nat.le_of_not_lt none)))
    exact ⟨[], (List.append_nil _).symm ▸ rests.reads, .inl ⟨rfl, empty⟩, rests.stream⟩

theorem wake_drains (port : SerialPort (Monitored σ)) :
    (Transport.wake patience port).IfEnds fun result after =>
      result = .ok () → ∃ drained, Drains held drained port.bus after.bus := by
  refine ifEnds_bind (write_rests line wakeUp port) (fun _ _ _ => nofun) ?_
  intro _ written rests
  refine (dropStale_drains line written).mono ?_
  intro result after drains done
  obtain ⟨drained, drains⟩ := drains done
  exact ⟨drained, drains.after_rest rests⟩

theorem send_drains (data : Bytes) (port : SerialPort (Monitored σ)) :
    (Transport.send data patience port).IfEnds fun result after =>
      result = .ok () → ∃ drained, Drains held drained port.bus after.bus := by
  refine ifEnds_bind (dropStale_drains line port) (fun _ _ _ => nofun) ?_
  intro _ dropped drains
  obtain ⟨drained, drains⟩ := drains rfl
  refine ifEnds_bind (write_rests line wakeUp dropped) (fun _ _ _ => nofun) ?_
  intro _ woken rests
  refine (write_rests line data woken).mono ?_
  intro _ _ restsThen _
  exact ⟨drained, (drains.before_rest rests).before_rest restsThen⟩

theorem perform_drains {operation : TransportOperation} (clears : operation.Clears)
    {answer : operation.Answer} (done : operation.perform patience port = .done answer cleared) :
    ∃ drained, Drains held drained port.bus cleared.bus := by
  cases operation with
  | wake =>
    have drains := wake_drains line port
    exact (ifEnds_iff ..).mp drains _ _ (ended_eq_ok_iff.mpr done) rfl
  | send data =>
    have drains := send_drains line data port
    exact (ifEnds_iff ..).mp drains _ _ (ended_eq_ok_iff.mpr done) rfl
  | openBus => exact clears.elim
  | poll => exact clears.elim
  | receive wanted timeoutMs => exact clears.elim

/-! ### What is received afterwards -/

theorem receivesFresh_of_whole (drains : Drains held drained port.bus cleared.bus)
    (whole : (held port.bus.inner).length ≤ (LineRead.brought drained).length) :
    ReceivesFresh held patience port cleared := by
  intro operations
  refine (Overheard.performEach_follows line operations { inner := cleared }).mono ?_
  rintro _ last ⟨calls, reads, called, noted, received, came⟩
  obtain ⟨fresh, stream⟩ := drains.stream.trans came
  refine ⟨fresh, stream.symm, ?_⟩
  have front : (port.bus.stream held).length ≤ (LineRead.brought cleared.bus.reads).length := by
    rw [drains.reads, LineRead.brought_append, Monitored.stream, List.length_append,
      List.length_append]
    exact Nat.add_le_add_left whole _
  have all : last.inner.bus.stream held = LineRead.brought cleared.bus.reads ++
      (LineRead.brought reads ++ held last.inner.bus.inner) := by
    rw [Monitored.stream, noted, LineRead.brought_append, List.append_assoc]
  -- What was handed over before reaches as far as the stale bytes do, so the rest lies behind them.
  have behind : fresh = (LineRead.brought cleared.bus.reads).drop (port.bus.stream held).length ++
      (LineRead.brought reads ++ held last.inner.bus.inner) := by
    rw [← List.drop_append_of_le_length front, ← all, ← stream, List.drop_left]
  have heard : (receivedIn last.calls).Sublist (LineRead.brought reads) := by
    rw [called]
    exact received
  rw [behind]
  exact heard.trans ((List.sublist_append_left _ _).trans (List.sublist_append_right _ _))

theorem receive_after_drain (drains : Drains held drained port.bus cleared.bus)
    (wanted timeoutMs : Nat) :
    (receive wanted timeoutMs patience cleared).IfEnds fun result _ => ∀ bytes,
      result = .ok bytes →
        ((held port.bus.inner).drop (LineRead.brought drained).length).take wanted <+: bytes := by
  refine (receive_gathers.and (goesOn_receive line wanted timeoutMs cleared)).mono ?_
  rintro result after ⟨⟨reads, noted, -, gathers⟩, precedes⟩ bytes answered
  obtain ⟨rfl, enough⟩ := gathers bytes answered
  -- What was left comes first in what the reads brought, which is at least what was wanted.
  have front := (drains.left.trans (held_prefix_of_stream noted precedes.stream)).take wanted
  rw [List.take_append_of_le_length enough] at front
  exact front.trans (List.take_prefix _ _)

/-- What a wake-up or a command finds on the line it asks for in one read. Nothing of it is ever
received if that read brings all of it. If it brings less, the next receive that succeeds begins
with what it left. -/
theorem stale_bytes_rest_on_one_read {operation : TransportOperation}
    (clears : operation.Clears) {answer : operation.Answer}
    (done : operation.perform patience port = .done answer cleared) :
    ∃ drained, cleared.bus.reads = port.bus.reads ++ drained ∧
      (drained = [] ∧ held port.bus.inner = [] ∨
        ∃ read, drained = [read] ∧ (held port.bus.inner).length ≤ read.wanted) ∧
      ((held port.bus.inner).length ≤ (LineRead.brought drained).length →
        ReceivesFresh held patience port cleared) ∧
      ∀ wanted timeoutMs, (receive wanted timeoutMs patience cleared).IfEnds fun result _ =>
        ∀ bytes, result = .ok bytes →
          ((held port.bus.inner).drop (LineRead.brought drained).length).take wanted <+: bytes := by
  obtain ⟨drained, drains⟩ := perform_drains line clears done
  exact ⟨drained, drains.reads, drains.asked, receivesFresh_of_whole line drains,
    receive_after_drain line drains⟩

end Cleared

/-! ### On the simulated line -/

/-- What the simulated line below a tap holds. -/
def tappedBuffer (tap : Tapped (Bench SerialDevice)) : Bytes := tap.inner.device.buffer

/-- Whatever the line holds and however little its reads bring, the call leaves nothing that is
received later. -/
def DiscardsStale (operation : TransportOperation) : Prop :=
  ∀ (port cleared : SerialPort (Monitored (Tapped (Bench SerialDevice))))
    (answer : operation.Answer) (patience : Nat),
    operation.perform patience port = .done answer cleared →
      ReceivesFresh tappedBuffer patience port cleared

/-- All that came over the line when the call and then the others were made, and what the others
received. -/
def heardAfter (operation : TransportOperation) (others : List TransportOperation)
    (port : SerialPort (Monitored (Tapped (Bench SerialDevice)))) : Option (Bytes × Bytes) := do
  let (result, cleared) ← (operation.perform 1 port).ended
  let _ ← result.toOption
  let (_, last) ← (TransportOperation.performEach others 1
    ({ inner := cleared } : Overheard (SerialPort _))).ended
  return (last.inner.bus.stream tappedBuffer, receivedIn last.calls)

theorem not_discardsStale_of_heard {operation : TransportOperation}
    {others : List TransportOperation}
    {port : SerialPort (Monitored (Tapped (Bench SerialDevice)))} {stream received : Bytes}
    (heard : heardAfter operation others port = some (stream, received))
    (stale : ¬received.Sublist (stream.drop (port.bus.stream tappedBuffer).length)) :
    ¬DiscardsStale operation := by
  intro discards
  obtain ⟨⟨result, cleared⟩, called, heard⟩ := Option.bind_eq_some_iff.mp heard
  obtain ⟨answer, done, heard⟩ := Option.bind_eq_some_iff.mp heard
  obtain ⟨⟨_, last⟩, ended, same⟩ := Option.bind_eq_some_iff.mp heard
  cases same
  cases result with
  | error error => cases done
  | ok answer =>
    have freshly := discards port cleared answer 1 (ended_eq_ok_iff.mp called) others
    obtain ⟨fresh, behind, part⟩ := (ifEnds_iff ..).mp freshly _ _ ended
    rw [behind, List.drop_left] at stale
    exact stale part

/-- A line that holds two bytes and will answer a request for the firmware version. So many bytes
are the most that each of its next reads brings. -/
def stalePort (limits : List Nat) : SerialPort (Monitored (Tapped (Bench SerialDevice))) where
  settings := {}
  bus := { inner := {
    inner := { device := { buffer := [0xaa, 0xbb], replies := [Reply.full 0x02 [0x32]] } }
    changes := limits.map ReadChange.limit } }

def getFirmwareVersion : Bytes := (Frame.command [0x02] []).wire

/-- Of two bytes the read that is to drop them brings one. The other is received next, after a
command in the place of the first byte of the acknowledgement. -/
theorem stale_byte_comes_back :
    ¬DiscardsStale .wake ∧ ¬DiscardsStale (.send getFirmwareVersion) := by
  constructor
  · have heard : heardAfter .wake [.receive 1 100] (stalePort [1]) =
        some ([0xaa, 0xbb], [0xbb]) := by decide +kernel
    exact not_discardsStale_of_heard heard (by decide)
  · have heard : heardAfter (.send getFirmwareVersion) [.receive 6 100] (stalePort [1]) =
        some ([0xaa, 0xbb] ++ Reply.full 0x02 [0x32], [0xbb, 0x00, 0x00, 0xff, 0x00, 0xff]) := by
      decide +kernel
    exact not_discardsStale_of_heard heard (by decide)

/-- Without a limit both bytes are gone for good, and with a limit of one byte the other is there
for the next receive. -/
theorem stale_bytes_rest_on_limit :
    (∃ cleared, TransportOperation.wake.perform 1 (stalePort []) = .done () cleared ∧
      ReceivesFresh tappedBuffer 1 (stalePort []) cleared) ∧
    ∃ cleared, (TransportOperation.send getFirmwareVersion).perform 1 (stalePort [1]) =
        .done () cleared ∧
      ∀ wanted timeoutMs, (receive wanted timeoutMs 1 cleared).IfEnds fun result _ => ∀ bytes,
        result = .ok bytes → [0xbb].take wanted <+: bytes := by
  have line : SerialLine.InOrder tappedBuffer 1 := Tapped.inOrder (SerialDevice.inOrder 1)
  constructor
  · have woken : ∃ cleared, TransportOperation.wake.perform 1 (stalePort []) = .done () cleared ∧
        LineRead.brought cleared.bus.reads = [0xaa, 0xbb] := ⟨_, rfl, rfl⟩
    obtain ⟨cleared, done, brought⟩ := woken
    have clears : TransportOperation.wake.Clears := True.intro
    obtain ⟨drained, reads, -, fresh, -⟩ := stale_bytes_rest_on_one_read line clears done
    obtain rfl : cleared.bus.reads = drained := reads
    refine ⟨cleared, done, fresh ?_⟩
    rw [brought]
    exact Nat.le_refl 2
  · have sent : ∃ cleared, (TransportOperation.send getFirmwareVersion).perform 1 (stalePort [1]) =
          .done () cleared ∧
        LineRead.brought cleared.bus.reads = [0xaa] := ⟨_, rfl, rfl⟩
    obtain ⟨cleared, done, brought⟩ := sent
    have clears : (TransportOperation.send getFirmwareVersion).Clears := True.intro
    obtain ⟨drained, reads, -, -, left⟩ := stale_bytes_rest_on_one_read line clears done
    obtain rfl : cleared.bus.reads = drained := reads
    rw [brought] at left
    exact ⟨cleared, done, left⟩

end SerialPort

end NfcLink
