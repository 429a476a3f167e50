import NfcLink.Proofs.Position.Formats
import NfcLink.Proofs.Returns

/-!
# Exchanges read by position

The handshake on any transport, the channel on top of it and the operations of the
controller, with every frame and every response read by position. Whatever the transport
hands over, an operation does what it does when it reads by pattern.
-/
namespace NfcLink

open Positional

variable {σ : Type} [Host σ] [Transport σ]

/-! ### Command and response -/

namespace Transport

def putCommandByPosition (header body : Bytes) : Positional σ Unit := do
  let frame ← read (Frame.encodeFromByPosition Frame.fromHost header body)
  plain (note (.commandWritten · frame))
  plain (send frame)
  let transport ← plain Action.get
  let budget := ackBudgetMs transport
  plain ((awaitReady budget).onFailure fun _ => note .ackMissing)
  let ack ← plain (receive Ack.frame.length budget)
  plain (note (.ackRead · ack))
  plain ((Action.ofExcept (Ack.expect ack)).onFailure fun _ => note (.ackInvalid · ack))

def takeResponseByPosition (command : UInt8) (timeoutMs capacity : Nat) : Positional σ Bytes := do
  plain (awaitReady timeoutMs)
  let head ← plain (receive Frame.headLength timeoutMs)
  let length ← (read (Frame.declaredLengthByPosition head)).onFailure fun error =>
    note (.headInvalid · head error)
  -- This difference is meant to stop at zero.
  let needed := length - 2
  if needed > capacity then plain (Action.fail (.noSpace needed capacity))
  else do
    let rest ← plain (receive (length + 2) timeoutMs)
    plain (note (.responseRead · (head ++ rest)))
    let frame ← read (Frame.decodeByPosition (head ++ rest))
    let payload ← plain frame.response
    read (responseDataByPosition command payload)

theorem putCommand_matches (header body : Bytes) :
    Matches (putCommandByPosition header body : Positional σ Unit) (putCommand header body) := by
  apply matches_read_bind (Frame.encodeFrom_gives Frame.fromHost header body)
  intro frame _
  repeat refine matches_then fun _ => ?_
  exact matches_plain _

theorem takeResponse_matches (command : UInt8) (timeoutMs capacity : Nat) :
    Matches (takeResponseByPosition command timeoutMs capacity : Positional σ Bytes)
      (takeResponse command timeoutMs capacity) := by
  refine matches_then fun _ => matches_then fun head => ?_
  apply ((matches_read (Frame.declaredLength_gives head)).onFailure _).bind
  intro length
  apply matches_ite
  · exact matches_plain _
  · refine matches_then fun rest => matches_then fun _ => ?_
    apply matches_read_bind (Frame.decode_gives _)
    intro frame _
    exact matches_then fun payload => matches_read (responseData_gives command payload)

end Transport

/-! ### Channels -/

namespace Channel

def putByPosition (header body : Bytes) : Positional (Channel σ) Unit :=
  match header with
  | [] => plain (Action.fail (.invalidLength 1 0))
  | opcode :: _ => do
    plain (Action.modify fun channel => { channel with lastCode := some opcode })
    (Transport.putCommandByPosition header body).on transportPart

def takeByPosition (timeoutMs : Nat) : Positional (Channel σ) Bytes := do
  let channel ← plain Action.get
  match channel.lastCode with
  | none => plain (Action.fail (.notReady "no command written yet"))
  | some opcode =>
    (Transport.takeResponseByPosition opcode timeoutMs channel.settings.capacity).on transportPart

def askWithinByPosition (header body : Bytes) (timeoutMs : Nat) : Positional (Channel σ) Bytes := do
  putByPosition header body
  takeByPosition timeoutMs

def askByPosition (header body : Bytes) : Positional (Channel σ) Bytes := do
  let channel ← plain Action.get
  askWithinByPosition header body channel.settings.timeoutMs

theorem put_matches (header body : Bytes) :
    Matches (putByPosition header body : Positional (Channel σ) Unit) (put header body) := by
  cases header with
  | nil => exact matches_plain _
  | cons opcode rest =>
    exact matches_then fun _ => (Transport.putCommand_matches (opcode :: rest) body).on _

theorem take_matches (timeoutMs : Nat) :
    Matches (takeByPosition timeoutMs : Positional (Channel σ) Bytes) (take timeoutMs) := by
  refine matches_then fun channel => ?_
  cases channel.lastCode with
  | none => exact matches_plain _
  | some opcode => exact (Transport.takeResponse_matches opcode timeoutMs _).on _

theorem askWithin_matches (header body : Bytes) (timeoutMs : Nat) :
    Matches (askWithinByPosition header body timeoutMs : Positional (Channel σ) Bytes)
      (askWithin header body timeoutMs) :=
  (put_matches header body).bind fun _ => take_matches timeoutMs

theorem ask_matches (header body : Bytes) :
    Matches (askByPosition header body : Positional (Channel σ) Bytes) (ask header body) :=
  matches_then fun channel => askWithin_matches header body channel.settings.timeoutMs

end Channel

def ChannelOperation.performByPosition :
    ChannelOperation → Positional (Channel σ) (Option Bytes)
  | put header body => do
    Channel.putByPosition header body
    return none
  | take timeoutMs => do
    let data ← Channel.takeByPosition timeoutMs
    return some data
  | ask header body => do
    let data ← Channel.askByPosition header body
    return some data
  | askWithin header body timeoutMs => do
    let data ← Channel.askWithinByPosition header body timeoutMs
    return some data
  | wake => do
    plain Channel.wake
    return none

theorem ChannelOperation.perform_matches (operation : ChannelOperation) :
    Matches (operation.performByPosition : Positional (Channel σ) (Option Bytes))
      operation.perform := by
  cases operation with
  | put header body => exact (Channel.put_matches header body).map fun _ => none
  | take timeoutMs => exact (Channel.take_matches timeoutMs).map some
  | ask header body => exact (Channel.ask_matches header body).map some
  | askWithin header body timeoutMs =>
    exact (Channel.askWithin_matches header body timeoutMs).map some
  | wake => exact (matches_plain Channel.wake).map fun _ => none

/-! ### The controller -/

namespace Chip

def firmwareByPosition : Positional (Channel σ) Firmware := do
  let answer ← Channel.askByPosition Command.firmwareVersion []
  let field ← read (answer.segmentByPosition 0 4)
  let ic ← field.octet? 0
  let version ← field.octet? 1
  let revision ← field.octet? 2
  let support ← field.octet? 3
  let firmware : Firmware := { ic, version, revision, support }
  plain (Host.note (.identified firmware))
  return firmware

/-- A command whose response says no more than that it came. -/
def commandByPosition (header : Bytes) : Positional (Channel σ) Unit :=
  discard (Channel.askByPosition header [])

def initAsTargetByPosition (command : Bytes) (timeoutMs : Nat) : Positional (Channel σ) Bytes :=
  match command with
  | [] => plain (Action.fail (.invalidLength 1 0))
  | code :: _ =>
    if code = Command.initAsTargetCode then Channel.askWithinByPosition command [] timeoutMs
    else plain (Action.fail (.commandMismatch Command.initAsTargetCode code))

def getDataByPosition : Positional (Channel σ) Bytes := do
  let answer ← Channel.askByPosition Command.getData []
  read answer.afterStatusByPosition

def setDataByPosition (header body : Bytes) : Positional (Channel σ) Unit := do
  let answer ← Channel.askByPosition (Command.setData header) body
  let _ ← read answer.afterStatusByPosition
  return ()

def activateByPosition (timeoutMs : Nat) : Positional (Channel σ) Unit := do
  commandByPosition Command.samConfiguration
  let activation ← initAsTargetByPosition Command.initAsPeer timeoutMs
  plain (Host.note (.activated activation.head?))

theorem firmware_matches :
    Matches (firmwareByPosition : Positional (Channel σ) Firmware) firmware := by
  apply (Channel.ask_matches _ _).bind
  intro answer
  have field := Bytes.segment_gives answer 0 4
  unfold Bytes.segment at field
  -- The four octets are there as soon as the segment is.
  rcases Nat.lt_or_ge answer.length 4 with short | long
  · rw [Bytes.requireLength_of_lt short] at field
    split
    next ic version revision support rest =>
      exact absurd short (Nat.not_lt_of_ge (Nat.le_add_left 4 rest.length))
    · exact matches_read_stop field _
  · rw [(Bytes.requireLength_eq_ok_iff _ _).mpr long] at field
    obtain ⟨ic, version, revision, support, rest, rfl⟩ := Bytes.exists_four long
    apply matches_read_then field
    apply matches_access rfl
    apply matches_access rfl
    apply matches_access rfl
    apply matches_access rfl
    exact matches_then fun _ => matches_pure _

theorem command_matches (header : Bytes) :
    Matches (commandByPosition header : Positional (Channel σ) Unit)
      (discard (Channel.ask header [])) :=
  (Channel.ask_matches header []).discard

theorem initAsTarget_matches (command : Bytes) (timeoutMs : Nat) :
    Matches (initAsTargetByPosition command timeoutMs : Positional (Channel σ) Bytes)
      (initAsTarget command timeoutMs) := by
  cases command with
  | nil => exact matches_plain _
  | cons code rest =>
    exact matches_ite (Channel.askWithin_matches (code :: rest) [] timeoutMs) (matches_plain _)

theorem getData_matches : Matches (getDataByPosition : Positional (Channel σ) Bytes) getData :=
  (Channel.ask_matches _ _).bind fun answer => matches_read answer.afterStatus_gives

theorem setData_matches (header body : Bytes) :
    Matches (setDataByPosition header body : Positional (Channel σ) Unit) (setData header body) :=
  (Channel.ask_matches _ _).bind fun answer =>
    matches_read_bind answer.afterStatus_gives fun _ _ => matches_pure ()

theorem activate_matches (timeoutMs : Nat) :
    Matches (activateByPosition timeoutMs : Positional (Channel σ) Unit) (activate timeoutMs) :=
  (command_matches _).bind fun _ =>
    (initAsTarget_matches _ timeoutMs).bind fun _ => matches_plain _

end Chip

def ChipOperation.performByPosition :
    (operation : ChipOperation) → Positional (Channel σ) operation.Answer
  | firmware => Chip.firmwareByPosition
  | samConfiguration => Chip.commandByPosition Command.samConfiguration
  | switchField avoidCollision on => Chip.commandByPosition (Command.field avoidCollision on)
  | limitRetries limit => Chip.commandByPosition (Command.retries limit)
  | release target => Chip.commandByPosition (Command.release target)
  | initAsTarget command timeoutMs => Chip.initAsTargetByPosition command timeoutMs
  | getData => Chip.getDataByPosition
  | setData header body => Chip.setDataByPosition header body
  | activate timeoutMs => Chip.activateByPosition timeoutMs

theorem ChipOperation.perform_matches (operation : ChipOperation) :
    Matches (operation.performByPosition : Positional (Channel σ) operation.Answer)
      operation.perform := by
  cases operation with
  | firmware => exact Chip.firmware_matches
  | samConfiguration => exact Chip.command_matches _
  | switchField avoidCollision on => exact Chip.command_matches _
  | limitRetries limit => exact Chip.command_matches _
  | release target => exact Chip.command_matches _
  | initAsTarget command timeoutMs => exact Chip.initAsTarget_matches command timeoutMs
  | getData => exact Chip.getData_matches
  | setData header body => exact Chip.setData_matches header body
  | activate timeoutMs => exact Chip.activate_matches timeoutMs

end NfcLink
