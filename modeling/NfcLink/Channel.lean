import NfcLink.Transport.Handshake

/-!
# Command channels

A channel puts commands to the controller and reads their responses. It keeps
the code of the last command it wrote, so that a response can be held against
it. A closed channel has to be started before it takes commands.
-/
namespace NfcLink

structure ChannelSettings where
  /-- Timeout of commands that bring none of their own. -/
  timeoutMs : Nat := 1000
  /-- The longest response data that is accepted. -/
  capacity : Nat := Frame.maxCounted
  deriving DecidableEq, Repr

structure ClosedChannel (σ : Type) where
  transport : σ
  settings : ChannelSettings := {}

structure Channel (σ : Type) where
  transport : σ
  settings : ChannelSettings := {}
  lastCode : Option UInt8 := none
  deriving DecidableEq

namespace ClosedChannel

variable {σ : Type}

def build (transport : Option σ) (settings : ChannelSettings) :
    Except Error (ClosedChannel σ) :=
  if settings.capacity = 0 then .error (.invalidSetting .zeroCapacity)
  else
    match transport with
    | some transport => .ok { transport, settings }
    | none => .error (.invalidSetting .noTransport)

/-- Opens the bus and wakes the controller. -/
def ready [Host σ] [Transport σ] : Action σ Unit := do
  Transport.openBus
  Transport.wake
  Transport.note .channelReady

/-- A channel that takes commands, or the transport that could not be made ready. -/
def start [Host σ] [Transport σ] (closed : ClosedChannel σ) (patience : Nat) :
    Outcome σ (Channel σ) :=
  match (ready : Action σ Unit) patience closed.transport with
  | .done _ transport => .done { transport, settings := closed.settings } transport
  | .failed error transport => .failed error transport
  | .waiting => .waiting

end ClosedChannel

namespace Channel

variable {σ : Type}

def transportPart : Part (Channel σ) σ :=
  ⟨Channel.transport, fun transport channel => { channel with transport }⟩

instance [Host σ] : Host (Channel σ) := Host.through transportPart

variable [Host σ] [Transport σ]

def wake : Action (Channel σ) Unit := (Transport.wake : Action σ Unit).on transportPart

/-- The first octet of the header is the command code. -/
def put (header body : Bytes) : Action (Channel σ) Unit :=
  match header with
  | [] => Action.fail (.invalidLength 1 0)
  | opcode :: _ => do
    Action.modify fun channel => { channel with lastCode := some opcode }
    (Transport.putCommand header body).on transportPart

def take (timeoutMs : Nat) : Action (Channel σ) Bytes := do
  let channel ← Action.get
  match channel.lastCode with
  | none => Action.fail (.notReady "no command written yet")
  | some opcode =>
    (Transport.takeResponse opcode timeoutMs channel.settings.capacity).on transportPart

def askWithin (header body : Bytes) (timeoutMs : Nat) : Action (Channel σ) Bytes := do
  put header body
  take timeoutMs

def ask (header body : Bytes) : Action (Channel σ) Bytes := do
  let channel ← Action.get
  askWithin header body channel.settings.timeoutMs

end Channel

end NfcLink
