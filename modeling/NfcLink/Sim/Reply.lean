import NfcLink.Frame
import NfcLink.Frame.Ack
import NfcLink.Llcp.Header
import NfcLink.Snep.Message

/-!
# What the other side sends

Wire forms of the answers of a controller and of the PDUs of a peer, for setting
up simulated ones.
-/
namespace NfcLink.Reply

/-- The frame that answers a command. Data that does not fit a frame is cut off. -/
def response (command : UInt8) (data : Bytes) : Bytes :=
  match Frame.encodeFrom Frame.fromController [command + 1] (data.take (Frame.maxCounted - 2)) with
  | .ok frame => frame
  | .error _ => []

/-- Acknowledgement and response of one exchange. -/
def full (command : UInt8) (data : Bytes) : Bytes :=
  Ack.frame ++ response command data

def pdu (dsap : Sap) (type : PduType) (ssap : Sap) : Bytes :=
  PduHeader.encode { dsap, type, ssap }

def information (dsap ssap : Sap) (ns nr : Seq) (field : Bytes) : Bytes :=
  PduHeader.encode ⟨dsap, .information, ssap, some (ns, nr)⟩ ++ field

def receiveReady (dsap ssap : Sap) (nr : Seq) : Bytes :=
  PduHeader.encode ⟨dsap, .receiveReady, ssap, some (0, nr)⟩

def putRequest (object : Bytes) : Bytes :=
  Snep.header Snep.putRequest object.length ++ object

end NfcLink.Reply
