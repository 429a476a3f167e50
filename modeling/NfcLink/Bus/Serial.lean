import NfcLink.Transport

/-!
# Controller on a serial line

The high-speed UART has no ready line and no read operation: the controller
sends when it has something. Reading therefore gathers bytes until there are
enough, whatever pieces the port hands them over in. Before a command is
written, what the port still holds is dropped, because it would be taken for the
acknowledgement.
-/
namespace NfcLink

class SerialLine (σ : Type) where
  setBaud : Nat → Action σ Unit
  write : Bytes → Action σ Unit
  /-- At most so many bytes within so many milliseconds; zero milliseconds waits without end. -/
  read : Nat → Nat → Action σ Bytes
  buffered : Action σ Nat

structure SerialSettings where
  baudRate : Nat := 115200
  deriving DecidableEq, Repr

namespace SerialSettings

def check (settings : SerialSettings) : Except Error Unit :=
  if settings.baudRate = 0 then .error (.invalidSetting .zeroBaudRate) else .ok ()

end SerialSettings

structure SerialPort (σ : Type) where
  bus : σ
  settings : SerialSettings
  ackBudgetMs : Nat := defaultAckBudgetMs
  deriving DecidableEq

namespace SerialPort

variable {σ : Type}

/-- Gets the controller out of low-power mode, where it would miss a command. -/
def wakeUp : Bytes := [0x55, 0x00, 0x00, 0x55]

def ofBus (bus : σ) (settings : SerialSettings) : Except Error (SerialPort σ) := do
  settings.check
  return { bus, settings }

def busPart : Part (SerialPort σ) σ := ⟨SerialPort.bus, fun bus port => { port with bus }⟩

instance [Host σ] : Host (SerialPort σ) := Host.through busPart

variable [SerialLine σ]

def write (data : Bytes) : Action (SerialPort σ) Unit := (SerialLine.write data).on busPart

def read (length timeoutMs : Nat) : Action (SerialPort σ) Bytes :=
  (SerialLine.read length timeoutMs).on busPart

variable [Host σ]

def dropStale : Action (SerialPort σ) Unit := do
  let pending ← (SerialLine.buffered : Action σ Nat).on busPart
  if pending > 0 then do
    let stale ← read pending 1
    Host.note (.staleDropped stale)

/-- Adds pieces to `gathered` until it holds `wanted` bytes or the deadline is less than a
millisecond away. -/
def gather (wanted : Nat) (deadline : Deadline) (rounds : Nat) (gathered : Bytes) :
    Action (SerialPort σ) Bytes :=
  if wanted ≤ gathered.length then pure gathered
  else
    match rounds with
    | 0 => Action.unfinished
    | rounds + 1 => do
      match ← deadline.remainingMs with
      | some 0 => return gathered
      | remaining => do
        let piece ← read (wanted - gathered.length) (remaining.getD 0)
        if piece.isEmpty then
          if ← deadline.expired then return gathered
          else gather wanted deadline rounds gathered
        else gather wanted deadline rounds (gathered ++ piece)

def receive (wanted timeoutMs : Nat) : Action (SerialPort σ) Bytes := do
  let deadline ← Deadline.after timeoutMs
  let rounds ← Action.patience
  let bytes ← gather wanted deadline rounds []
  Host.note (.bytesReceived .hsu bytes)
  if bytes.length < wanted then do
    Host.note (.receiveTimedOut bytes.length wanted)
    Action.fail .timeout
  else return bytes

instance : Transport (SerialPort σ) where
  kind _ := .hsu
  ackBudgetMs := SerialPort.ackBudgetMs
  openBus := do
    let port ← Action.get
    (SerialLine.setBaud port.settings.baudRate).on busPart
  wake := do
    write wakeUp
    dropStale
  poll := pure true
  send data := do
    dropStale
    write wakeUp
    write data
  receive := receive

end SerialPort

end NfcLink
