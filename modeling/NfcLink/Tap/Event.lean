import NfcLink.Text.Hex

/-!
# Transactions seen by a tap

One event for each call on a transport, a bus or a peer link, and the line that
a transcript shows for it.
-/
namespace NfcLink

inductive Event where
  | opened
  | woken
  | polled
  | sent (data : Bytes)
  | received (wanted timeoutMs : Nat)
  | spiConfigured (clockHz mode : Nat)
  | written (data : Bytes)
  | transferred (data : Bytes)
  | i2cWritten (address : UInt8) (data : Bytes)
  | i2cRead (address : UInt8) (length : Nat)
  | serialConfigured (baudRate : Nat)
  | availableAsked
  | serialRead (length : Nat) (timed : Bool)
  | activated (timeoutMs : Nat)
  | linkRead
  | linkWritten (header body : Bytes)
  deriving DecidableEq, Repr

namespace Event

def text : Event → String
  | opened => "open"
  | woken => "wake"
  | polled => "poll"
  | sent data => s!"send {Hex.plain data}"
  | received wanted timeoutMs => s!"recv {wanted} {timeoutMs}"
  | spiConfigured clockHz mode => s!"configure {clockHz} {mode}"
  | written data => s!"write {Hex.plain data}"
  | transferred data => s!"transfer {Hex.plain data}"
  | i2cWritten address data => s!"write {address.toNat} {Hex.plain data}"
  | i2cRead address length => s!"read {address.toNat} {length}"
  | serialConfigured baudRate => s!"configure {baudRate}"
  | availableAsked => "available"
  | serialRead length timed => s!"read {length} " ++ if timed then "timed" else "forever"
  | activated timeoutMs => s!"activate {timeoutMs}"
  | linkRead => "read"
  | linkWritten header body => s!"write {Hex.plain header}|{Hex.plain body}"

end Event

end NfcLink
