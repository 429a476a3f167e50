import NfcLink.Frame.Ack
import NfcLink.Transport

/-!
# Controller on I²C

Every read opens with a status octet and goes on with the pending frame from its
first byte. A frame is therefore read in pieces by reading it again: once some
of it has been handed on, the host asks for a repetition with a negative
acknowledge frame and then reads what it has seen together with what it wants.
-/
namespace NfcLink

/-- A bus master that addresses seven-bit targets. -/
class I2cMaster (σ : Type) where
  write : UInt8 → Bytes → Action σ Unit
  read : UInt8 → Nat → Action σ Bytes

structure I2cSettings where
  address : UInt8 := 0x24
  /-- Time to settle after the bus was opened. -/
  settleMs : Nat := 1000
  /-- Time to wait before the wake-up write. -/
  wakeMs : Nat := 50
  deriving DecidableEq, Repr

namespace I2cSettings

def immediate (settings : I2cSettings) : I2cSettings :=
  { settings with settleMs := 0, wakeMs := 0 }

def check (settings : I2cSettings) : Except Error Unit :=
  if settings.address > 0x7F then
    .error (.invalidSetting (.i2cAddress settings.address))
  else .ok ()

end I2cSettings

structure I2cPort (σ : Type) where
  bus : σ
  settings : I2cSettings
  ackBudgetMs : Nat := defaultAckBudgetMs
  /-- Bytes of the pending frame that were handed on already. -/
  seen : Nat := 0
  deriving DecidableEq

namespace I2cPort

variable {σ : Type}

def ofBus (bus : σ) (settings : I2cSettings) : Except Error (I2cPort σ) := do
  settings.check
  return { bus, settings }

def busPart : Part (I2cPort σ) σ := ⟨I2cPort.bus, fun bus port => { port with bus }⟩

instance [Host σ] : Host (I2cPort σ) := Host.through busPart

def setSeen (seen : Nat) : Action (I2cPort σ) Unit :=
  Action.modify fun port => { port with seen }

/-- Bit 0 of the status octet tells whether what follows is a frame. -/
def statusReady : Bytes → Bool
  | status :: _ => status.toNat.testBit 0
  | [] => false

variable [I2cMaster σ]

def write (data : Bytes) : Action (I2cPort σ) Unit := do
  let port ← Action.get
  (I2cMaster.write port.settings.address data).on busPart

def read (length : Nat) : Action (I2cPort σ) Bytes := do
  let port ← Action.get
  (I2cMaster.read port.settings.address length).on busPart

variable [Host σ]

/-- A controller that does not answer its address is busy, not broken. -/
def pollStatus : Action (I2cPort σ) Bool := do
  match ← (read 1).attempt with
  | .ok answer =>
    if statusReady answer then do
      setSeen 0
      return true
    else return false
  | .error error => do
    Host.note (.statusUnreadable error)
    return false

/-- Reads `total` bytes from the start of the frame until the controller is ready to give them, and
hands on those after the first `seen`. -/
def readFrom (seen total : Nat) (deadline : Deadline) : (rounds : Nat) → Action (I2cPort σ) Bytes
  | 0 => Action.unfinished
  | rounds + 1 => do
    let raw ← read (total + 1)
    if statusReady raw then
      if raw.length < total + 1 then do
        Host.note (.shortRead raw.length (total + 1))
        Action.fail .timeout
      else do
        let bytes := raw.drop (1 + seen)
        Host.note (.bytesReceived .i2c bytes)
        setSeen total
        return bytes
    else if ← deadline.expired then Action.fail .timeout
    else do
      Host.pause pollIntervalMs
      readFrom seen total deadline rounds

def receive (wanted timeoutMs : Nat) : Action (I2cPort σ) Bytes := do
  let port ← Action.get
  let seen := port.seen
  if seen > 0 then do
    Host.note (.rereading seen)
    write Ack.negative
  let deadline ← Deadline.after timeoutMs
  let rounds ← Action.patience
  readFrom seen (seen + wanted) deadline rounds

instance : Transport (I2cPort σ) where
  kind _ := .i2c
  ackBudgetMs := I2cPort.ackBudgetMs
  openBus := do
    let port ← Action.get
    Host.pause port.settings.settleMs
  wake := do
    let port ← Action.get
    Host.pause port.settings.wakeMs
    write [0x00]
  poll := pollStatus
  send data := do
    setSeen 0
    write data
  receive := receive

end I2cPort

end NfcLink
