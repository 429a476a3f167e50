import NfcLink.Bytes.Field
import NfcLink.Channel
import NfcLink.Chip.Command
import NfcLink.Link

/-!
# Controller operations

The operations that peer-to-peer exchange asks of the controller, each one
command on a channel. Activated as a target, the controller is itself a link to
the peer.
-/
namespace NfcLink.Chip

variable {σ : Type} [Host σ] [Transport σ]

def firmware : Action (Channel σ) Firmware := do
  let answer ← Channel.ask Command.firmwareVersion []
  match answer with
  | ic :: version :: revision :: support :: _ => do
    let firmware : Firmware := { ic, version, revision, support }
    Host.note (.identified firmware)
    return firmware
  | short => Action.fail (.invalidLength 4 short.length)

def samConfiguration : Action (Channel σ) Unit :=
  discard (Channel.ask Command.samConfiguration [])

def switchField (avoidCollision on : Bool) : Action (Channel σ) Unit :=
  discard (Channel.ask (Command.field avoidCollision on) [])

def limitRetries (limit : UInt8) : Action (Channel σ) Unit :=
  discard (Channel.ask (Command.retries limit) [])

def release (target : UInt8) : Action (Channel σ) Unit :=
  discard (Channel.ask (Command.release target) [])

/-- Answers the activation mode and the initiator's first command. -/
def initAsTarget (command : Bytes) (timeoutMs : Nat) : Action (Channel σ) Bytes :=
  match command with
  | [] => Action.fail (.invalidLength 1 0)
  | code :: _ =>
    if code = Command.initAsTargetCode then Channel.askWithin command [] timeoutMs
    else Action.fail (.commandMismatch Command.initAsTargetCode code)

def initAsPeer (timeoutMs : Nat) : Action (Channel σ) Bytes :=
  initAsTarget Command.initAsPeer timeoutMs

def getData : Action (Channel σ) Bytes := do
  let answer ← Channel.ask Command.getData []
  answer.afterStatus

def setData (header body : Bytes) : Action (Channel σ) Unit := do
  let answer ← Channel.ask (Command.setData header) body
  let _ ← answer.afterStatus
  return ()

def activate (timeoutMs : Nat) : Action (Channel σ) Unit := do
  samConfiguration
  let activation ← initAsPeer timeoutMs
  Host.note (.activated activation.head?)

instance : PeerLink (Channel σ) where
  activate := activate
  read := getData
  write := setData

end NfcLink.Chip
