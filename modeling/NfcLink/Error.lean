import NfcLink.Llcp.PduType

/-!
# Errors

One inductive type of causes for the whole stack, from a bus that fails to a
peer that breaks the protocol. The wording of each cause is in `message` alone.
`code` is the number by which a status register would report the cause, for
those causes that have one.
-/
namespace NfcLink

/-- Why a byte string is not an information frame from the controller. -/
inductive FrameFault where
  | truncatedHead (length : Nat)
  | preamble
  | lengthChecksum (length checksum : UInt8)
  | empty
  | lengthMismatch (expected actual : Nat)
  | identifier (octet : UInt8)
  | dataChecksum (expected actual : UInt8)
  | postamble
  | direction (octet : UInt8)
  | noResponseCode
  | reported (text : String)
  deriving DecidableEq, Repr

namespace FrameFault

def message : FrameFault → String
  | truncatedHead length => s!"truncated head: {length} bytes"
  | preamble => "invalid preamble"
  | lengthChecksum length checksum =>
    s!"length checksum mismatch: len {Hex.marked length}, lcs {Hex.marked checksum}"
  | empty => "empty frame"
  | lengthMismatch expected actual => s!"length mismatch: expected {expected} bytes, got {actual}"
  | identifier octet => s!"invalid frame identifier {Hex.marked octet}"
  | dataChecksum expected actual =>
    s!"data checksum mismatch: expected {Hex.marked expected}, got {Hex.marked actual}"
  | postamble => "invalid postamble"
  | direction octet => s!"unexpected frame identifier {Hex.marked octet}"
  | noResponseCode => "response without command code"
  | reported text => text

end FrameFault

/-- Why a set of parameters is refused before anything is driven with it. -/
inductive SettingFault where
  | spiSpeed (hertz limit : Nat)
  | i2cAddress (address : UInt8)
  | zeroBaudRate
  | zeroCapacity
  | noTransport
  | reported (text : String)
  deriving DecidableEq, Repr

namespace SettingFault

def message : SettingFault → String
  | spiSpeed hertz limit => s!"SPI speed {hertz} Hz outside 1..={limit}"
  | i2cAddress address => s!"I2C address {Hex.marked address} is not a 7-bit address"
  | zeroBaudRate => "baud rate must be non-zero"
  | zeroCapacity => "response capacity must be non-zero"
  | noTransport => "no transport provided"
  | reported text => text

end SettingFault

/-- A peer that does not follow the logical link protocol. -/
inductive LinkFault where
  | shortRead (length : Nat)
  | unexpectedPdu (expected : String) (actual : PduType)
  | notConnected
  deriving DecidableEq, Repr

namespace LinkFault

def message : LinkFault → String
  | shortRead length => s!"short PDU: {length} byte(s)"
  | unexpectedPdu expected actual => s!"unexpected PDU: expected {expected}, got {actual.text}"
  | notConnected => "no connection established"

end LinkFault

inductive Error where
  | bus (text : String)
  | timeout
  | invalidFrame (fault : FrameFault)
  | invalidAck (actual : Bytes)
  | noSpace (needed capacity : Nat)
  | commandMismatch (expected actual : UInt8)
  | invalidLength (expected actual : Nat)
  | targetStatus (status : UInt8)
  | notReady (text : String)
  | link (fault : LinkFault)
  | versionMismatch (expected actual : UInt8)
  | opcodeMismatch (expected actual : UInt8)
  | payloadTooLarge (length limit : Nat)
  | invalidSetting (fault : SettingFault)
  deriving DecidableEq, Repr

namespace Error

def message : Error → String
  | bus text => s!"bus error: {text}"
  | timeout => "operation timed out"
  | invalidFrame fault => s!"invalid frame: {fault.message}"
  | invalidAck actual => s!"invalid ack frame: {Hex.listed actual}"
  | noSpace needed capacity => s!"no space: frame needs {needed} bytes, buffer holds {capacity}"
  | commandMismatch expected actual =>
    s!"response does not match command: expected {Hex.marked expected}, got {Hex.marked actual}"
  | invalidLength expected actual => s!"invalid length: expected {expected}, got {actual}"
  | targetStatus status => s!"target status error: {Hex.marked status}"
  | notReady text => s!"command channel not ready: {text}"
  | link fault => s!"protocol error: {fault.message}"
  | versionMismatch expected actual =>
    s!"version mismatch: expected {Hex.marked expected}, got {Hex.marked actual}"
  | opcodeMismatch expected actual =>
    s!"opcode mismatch: expected {Hex.marked expected}, got {Hex.marked actual}"
  | payloadTooLarge length limit => s!"payload too large: {length} bytes, at most {limit}"
  | invalidSetting fault => s!"invalid configuration: {fault.message}"

def code : Error → Option Int
  | invalidAck _ => some (-1)
  | timeout => some (-2)
  | invalidFrame _ => some (-3)
  | commandMismatch _ _ => some (-3)
  | noSpace _ _ => some (-4)
  | _ => none

/-- Nothing answered in time, as opposed to a garbled answer. -/
def isTimeout : Error → Bool
  | timeout => true
  | _ => false

end Error

end NfcLink
