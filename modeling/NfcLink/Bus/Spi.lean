import NfcLink.Transport

/-!
# Controller on SPI

An operation octet opens every transaction: status read, data write or data
read. A data read goes on where the last one stopped. The controller sends the
low bit of an octet first; on a bus master that cannot, each octet is reversed
on its way out and on its way in.
-/
namespace NfcLink

/-- A bus master with chip select held for the length of each call. -/
class SpiMaster (σ : Type) where
  /-- Clock rate in hertz, then clock mode. -/
  setClock : Nat → Nat → Action σ Unit
  shiftOut : Bytes → Action σ Unit
  /-- Answers the bytes shifted in while the argument was shifted out. -/
  exchange : Bytes → Action σ Bytes

inductive BitOrder where
  /-- Octets reach the bus as they are. -/
  | msbFirst
  /-- Octets are reversed on the way. -/
  | lsbFirst
  deriving DecidableEq, Repr

namespace BitOrder

def octet : BitOrder → UInt8 → UInt8
  | msbFirst, plain => plain
  | lsbFirst, plain => Bytes.reverseBits plain

@[simp] theorem octet_octet (order : BitOrder) (plain : UInt8) :
    order.octet (order.octet plain) = plain := by
  cases order with
  | msbFirst => rfl
  | lsbFirst => exact Bytes.reverseBits_reverseBits plain

@[simp] theorem octet_zero (order : BitOrder) : order.octet 0 = 0 := by
  cases order with
  | msbFirst => rfl
  | lsbFirst => decide

@[simp] theorem octet_msbFirst (plain : UInt8) : BitOrder.msbFirst.octet plain = plain := rfl

def onWire (order : BitOrder) (bytes : Bytes) : Bytes := bytes.map order.octet

@[simp] theorem onWire_onWire (order : BitOrder) (bytes : Bytes) :
    order.onWire (order.onWire bytes) = bytes := by
  simp only [onWire, List.map_map]
  exact List.map_id'' (octet_octet order) bytes

@[simp] theorem onWire_msbFirst (bytes : Bytes) : BitOrder.msbFirst.onWire bytes = bytes :=
  List.map_id bytes

@[simp] theorem onWire_nil (order : BitOrder) : order.onWire [] = [] := rfl

@[simp] theorem onWire_cons (order : BitOrder) (octet : UInt8) (bytes : Bytes) :
    order.onWire (octet :: bytes) = order.octet octet :: order.onWire bytes := rfl

@[simp] theorem onWire_length (order : BitOrder) (bytes : Bytes) :
    (order.onWire bytes).length = bytes.length :=
  List.length_map _

end BitOrder

structure SpiSettings where
  clockHz : Nat := 4000000
  bitOrder : BitOrder := .lsbFirst
  deriving DecidableEq, Repr

namespace SpiSettings

/-- The fastest clock that the controller follows. -/
def maxClockHz : Nat := 5000000

def check (settings : SpiSettings) : Except Error Unit :=
  if settings.clockHz = 0 ∨ settings.clockHz > maxClockHz then
    .error (.invalidSetting (.spiSpeed settings.clockHz maxClockHz))
  else .ok ()

end SpiSettings

structure SpiPort (σ : Type) where
  bus : σ
  settings : SpiSettings
  ackBudgetMs : Nat := defaultAckBudgetMs
  deriving DecidableEq

namespace SpiPort

variable {σ : Type}

def statusRead : UInt8 := 0x02

def dataWrite : UInt8 := 0x01

def dataRead : UInt8 := 0x03

/-- The controller answers in clock mode 0 only. -/
def clockMode : Nat := 0

def ofBus (bus : σ) (settings : SpiSettings) : Except Error (SpiPort σ) := do
  settings.check
  return { bus, settings }

def busPart : Part (SpiPort σ) σ := ⟨SpiPort.bus, fun bus port => { port with bus }⟩

instance [Host σ] : Host (SpiPort σ) := Host.through busPart

variable [SpiMaster σ]

/-- A transfer in which both directions read in natural bit order. -/
def exchange (bytes : Bytes) : Action (SpiPort σ) Bytes := do
  let port ← Action.get
  let order := port.settings.bitOrder
  let answer ← (SpiMaster.exchange (order.onWire bytes)).on busPart
  return order.onWire answer

/-- Bit 0 of the octet after the operation tells whether a frame can be read. -/
def ready : Action (SpiPort σ) Bool := do
  let answer ← exchange [statusRead, 0x00]
  return match answer with
    | _ :: status :: _ => status.toNat.testBit 0
    | _ => false

variable [Host σ]

instance : Transport (SpiPort σ) where
  kind _ := .spi
  ackBudgetMs := SpiPort.ackBudgetMs
  openBus := do
    let port ← Action.get
    (SpiMaster.setClock port.settings.clockHz clockMode).on busPart
  -- Selecting the chip wakes it, and any transaction does that.
  wake := discard ready
  poll := ready
  send data := do
    let port ← Action.get
    (SpiMaster.shiftOut (port.settings.bitOrder.onWire (dataWrite :: data))).on busPart
  receive wanted _ := do
    let answer ← exchange (dataRead :: List.replicate wanted 0)
    -- Nothing is shifted in during the operation octet.
    let bytes := answer.drop 1
    Host.note (.bytesReceived .spi bytes)
    return bytes

end SpiPort

end NfcLink
