import NfcLink.Bus.Kind
import NfcLink.Chip.Firmware
import NfcLink.Error
import NfcLink.Llcp.Connection

/-!
# Journal

What the stack reports about itself while it works. A notice is the event; its
level and its wording are functions of it.
-/
namespace NfcLink

inductive Level where
  | trace
  | debug
  | info
  | warn
  deriving DecidableEq, Repr

namespace Level

def text : Level → String
  | trace => "TRACE"
  | debug => "DEBUG"
  | info => "INFO"
  | warn => "WARN"

end Level

inductive Notice where
  | commandWritten (bus : BusKind) (frame : Bytes)
  | ackMissing (bus : BusKind)
  | ackRead (bus : BusKind) (bytes : Bytes)
  | ackInvalid (bus : BusKind) (bytes : Bytes)
  | headInvalid (bus : BusKind) (head : Bytes) (error : Error)
  | responseRead (bus : BusKind) (frame : Bytes)
  | bytesReceived (bus : BusKind) (bytes : Bytes)
  | statusUnreadable (error : Error)
  | rereading (seen : Nat)
  | shortRead (actual wanted : Nat)
  | staleDropped (bytes : Bytes)
  | receiveTimedOut (actual wanted : Nat)
  | channelReady (bus : BusKind)
  | identified (firmware : Firmware)
  | activated (mode : Option UInt8)
  | deadlinePassed (wanted : List PduType)
  | pduReceived (type : PduType) (pdu : Bytes)
  | symmLimit (answered : Nat)
  | pduSent (header body : Bytes)
  | phaseChanged (before after : Phase) (role : Role)
  | acknowledged (ns : Seq)
  | pushing (length : Nat)
  | releaseFailed (error : Error)
  | headerShifted (stray : Bytes)
  | pulled (length : Nat)
  deriving DecidableEq, Repr

namespace Notice

def level : Notice → Level
  | ackMissing _ => .debug
  | ackInvalid _ _ => .debug
  | headInvalid _ _ _ => .debug
  | shortRead _ _ => .debug
  | staleDropped _ => .debug
  | receiveTimedOut _ _ => .debug
  | channelReady _ => .debug
  | identified _ => .info
  | activated _ => .debug
  | deadlinePassed _ => .debug
  | symmLimit _ => .debug
  | phaseChanged _ _ _ => .debug
  | pushing _ => .debug
  | releaseFailed _ => .warn
  | headerShifted _ => .warn
  | pulled _ => .debug
  | _ => .trace

def message : Notice → String
  | commandWritten bus frame => s!"{bus.text} write: {Hex.spaced frame}"
  | ackMissing bus => s!"{bus.text}: timed out waiting for ACK"
  | ackRead bus bytes => s!"{bus.text} ack: {Hex.spaced bytes}"
  | ackInvalid bus bytes => s!"{bus.text}: invalid ACK {Hex.spaced bytes}"
  | headInvalid bus head error =>
    s!"{bus.text}: bad response head {Hex.spaced head}: {error.message}"
  | responseRead bus frame => s!"{bus.text} read: {Hex.spaced frame}"
  | bytesReceived bus bytes => s!"{bus.text} rx: {Hex.spaced bytes}"
  | statusUnreadable error => s!"I2C status read failed, not ready: {error.message}"
  | rereading seen => s!"I2C NACK, re-reading {seen} byte(s) already seen"
  | shortRead actual wanted => s!"I2C short read: {actual} of {wanted} bytes"
  | staleDropped bytes => s!"HSU dropped stale input: {Hex.spaced bytes}"
  | receiveTimedOut actual wanted => s!"HSU timeout: {actual} of {wanted} bytes"
  | channelReady bus => s!"{bus.text} channel ready"
  | identified firmware => firmware.text
  | activated mode => s!"activated as target, mode {Hex.optional mode}"
  | deadlinePassed wanted => s!"deadline passed waiting for {PduType.labels wanted}"
  | pduReceived type pdu => s!"LLCP rx {type.text}: {Hex.spaced pdu}"
  | symmLimit answered => s!"gave up after {answered} SYMM exchanges"
  | pduSent header body => s!"LLCP tx: {Hex.spaced header} | {Hex.spaced body}"
  | phaseChanged before after role => s!"LLCP {before.text} -> {after.text} ({role.text})"
  | acknowledged ns => s!"I PDU acknowledged, N(S) now {Seq.text ns}"
  | pushing length => s!"SNEP PUT {length} byte(s)"
  | releaseFailed error => s!"SNEP disconnect after PUT failed: {error.message}"
  | headerShifted stray => s!"SNEP header shifted by 4 bytes, skipping: {Hex.spaced stray}"
  | pulled length => s!"SNEP PUT received, {length} byte(s)"

def line (notice : Notice) : String := notice.level.text ++ " " ++ notice.message

end Notice

end NfcLink
