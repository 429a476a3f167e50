import NfcLink.Llcp.Address

/-!
# Connections

What one end of a logical link knows about its connection: which end it plays,
how far the connection has come, the two addresses and the two counters.
-/
namespace NfcLink

inductive Role where
  /-- Opened the connection. -/
  | initiator
  /-- Accepted the connection. -/
  | target
  deriving DecidableEq, Repr

namespace Role

def text : Role → String
  | initiator => "initiator"
  | target => "target"

end Role

inductive Phase where
  | idle
  /-- The controller was told to wait for an initiator. -/
  | activating
  /-- The handshake is under way. -/
  | connecting
  | connected
  | disconnecting
  deriving DecidableEq, Repr

namespace Phase

def text : Phase → String
  | idle => "Idle"
  | activating => "Activating"
  | connecting => "AwaitingSymmOrConnect"
  | connected => "Connected"
  | disconnecting => "Disconnecting"

end Phase

structure Connection where
  role : Role := .initiator
  phase : Phase := .idle
  /-- The peer's address. -/
  dsap : Sap := 0
  /-- Our own address. -/
  ssap : Sap := 0
  /-- Number of the next information PDU sent. -/
  ns : Seq := 0
  /-- Number of the next information PDU expected. -/
  nr : Seq := 0
  deriving DecidableEq, Repr

end NfcLink
