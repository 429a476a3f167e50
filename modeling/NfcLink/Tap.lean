import NfcLink.Bus.I2c
import NfcLink.Bus.Serial
import NfcLink.Bus.Spi
import NfcLink.Link
import NfcLink.Tap.Event

/-!
# Taps

A tap sits between a layer and the one below. It writes down each transaction,
lets a set number of them pass and the next ones fail, and alters or delays what
reads answer. Over a tap nothing else changes.
-/
namespace NfcLink

/-- What becomes of one bus read. -/
inductive ReadChange where
  | none
  /-- Zeros, and the device is not asked. -/
  | busy
  /-- No bytes, and the device is not asked. -/
  | empty
  /-- An error, and the device is not asked. -/
  | refused
  /-- The last bytes are lost. -/
  | dropped (count : Nat)
  /-- The status octet is replaced. -/
  | status (octet : UInt8)
  /-- No more than so many bytes are read. -/
  | limit (count : Nat)
  deriving DecidableEq, Repr

structure Tapped (σ : Type) where
  inner : σ
  events : List Event := []
  /-- Transactions that pass before some fail. -/
  passing : Nat := 0
  failing : Nat := 0
  changes : List ReadChange := []
  /-- What each of the next reads of a peer link takes, in milliseconds. -/
  delaysMs : List Nat := []
  deriving DecidableEq

namespace Tapped

variable {σ α : Type}

def innerPart : Part (Tapped σ) σ := ⟨Tapped.inner, fun inner tap => { tap with inner }⟩

instance [Host σ] : Host (Tapped σ) := Host.through innerPart

def injected : Error := .bus "injected failure"

def record (event : Event) : Action (Tapped σ) Unit :=
  Action.modify fun tap => { tap with events := tap.events ++ [event] }

/-- Whether the next transaction is one that fails. -/
def failsNext (tap : Tapped σ) : Bool := tap.passing == 0 && tap.failing != 0

def countPassed : Action (Tapped σ) Unit :=
  Action.modify fun tap => { tap with passing := tap.passing - 1 }

def failNow : Action (Tapped σ) α := do
  Action.modify fun tap => { tap with failing := tap.failing - 1 }
  Action.fail injected

def transaction (event : Event) (act : Action (Tapped σ) α) : Action (Tapped σ) α := do
  record event
  let tap ← Action.get
  if tap.failsNext then failNow
  else do
    countPassed
    act

def nextChange : Action (Tapped σ) ReadChange := do
  let tap ← Action.get
  match tap.changes with
  | change :: changes => do
    Action.modify fun tap => { tap with changes }
    return change
  | [] => return .none

instance [Transport σ] : Transport (Tapped σ) where
  kind tap := Transport.kind tap.inner
  ackBudgetMs tap := Transport.ackBudgetMs tap.inner
  openBus := transaction .opened ((Transport.openBus : Action σ Unit).on innerPart)
  wake := transaction .woken ((Transport.wake : Action σ Unit).on innerPart)
  poll := transaction .polled ((Transport.poll : Action σ Bool).on innerPart)
  send data := transaction (.sent data) ((Transport.send data).on innerPart)
  receive wanted timeoutMs :=
    transaction (.received wanted timeoutMs) ((Transport.receive wanted timeoutMs).on innerPart)

/-- Puts a status where a transfer answers one. -/
def withStatus : ReadChange → Bytes → Bytes
  | .status octet, first :: _ :: rest => first :: octet :: rest
  | _, answer => answer

instance [SpiMaster σ] : SpiMaster (Tapped σ) where
  setClock clockHz mode :=
    transaction (.spiConfigured clockHz mode) ((SpiMaster.setClock clockHz mode).on innerPart)
  shiftOut data := transaction (.written data) ((SpiMaster.shiftOut data).on innerPart)
  exchange data := transaction (.transferred data) do
    let change ← nextChange
    let answer ← (SpiMaster.exchange data).on innerPart
    return withStatus change answer

/-- A frame read that finds the controller busy. A wait makes many of them, and how many is a
matter of time. -/
def idle (length : Nat) : Except Error Bytes → Bool
  | .ok answer => decide (length > 1) && !I2cPort.statusReady answer
  | .error _ => false

def changedRead [I2cMaster σ] (address : UInt8) (length : Nat) :
    ReadChange → Action (Tapped σ) Bytes
  | .busy => pure (List.replicate length 0)
  | .empty => pure []
  | .refused => Action.fail (.bus "scripted read failure")
  | .dropped count => do
    let answer ← (I2cMaster.read address length).on innerPart
    return answer.take (answer.length - count)
  | .status octet => do
    let answer ← (I2cMaster.read address length).on innerPart
    return match answer with
      | _ :: rest => octet :: rest
      | [] => []
  | _ => (I2cMaster.read address length).on innerPart

instance [I2cMaster σ] : I2cMaster (Tapped σ) where
  write address data :=
    transaction (.i2cWritten address data) ((I2cMaster.write address data).on innerPart)
  read address length := do
    let event := .i2cRead address length
    let tap ← Action.get
    if tap.failsNext then do
      record event
      failNow
    else do
      let change ← nextChange
      let answer ← (changedRead address length change).attempt
      if idle length answer then
        if tap.events.getLast? = some event then pure () else record event
      else do
        record event
        countPassed
      Action.ofExcept answer

instance [SerialLine σ] : SerialLine (Tapped σ) where
  setBaud baudRate :=
    transaction (.serialConfigured baudRate) ((SerialLine.setBaud baudRate).on innerPart)
  write data := transaction (.written data) ((SerialLine.write data).on innerPart)
  -- A read that finds nothing is a wait, which leaves no trace.
  read length timeoutMs := do
    let available ← (SerialLine.buffered : Action σ Nat).on innerPart
    if available = 0 then (SerialLine.read length timeoutMs).on innerPart
    else transaction (.serialRead length (timeoutMs != 0)) do
      match ← nextChange with
      | .limit count => (SerialLine.read (min length count) timeoutMs).on innerPart
      | _ => (SerialLine.read length timeoutMs).on innerPart
  buffered :=
    transaction .availableAsked ((SerialLine.buffered : Action σ Nat).on innerPart)

def nextDelay : Action (Tapped σ) Nat := do
  let tap ← Action.get
  match tap.delaysMs with
  | delay :: delaysMs => do
    Action.modify fun tap => { tap with delaysMs }
    return delay
  | [] => return 0

instance [Host σ] [PeerLink σ] : PeerLink (Tapped σ) where
  activate timeoutMs :=
    transaction (.activated timeoutMs) ((PeerLink.activate timeoutMs : Action σ Unit).on innerPart)
  read := transaction .linkRead do
    let delay ← nextDelay
    Host.pause delay
    (PeerLink.read : Action σ Bytes).on innerPart
  write header body :=
    transaction (.linkWritten header body)
      ((PeerLink.write header body : Action σ Unit).on innerPart)

end Tapped

end NfcLink
