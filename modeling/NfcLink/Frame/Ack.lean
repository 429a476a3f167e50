import NfcLink.Error

/-!
# Acknowledge frames

The controller confirms every command frame with one fixed frame. Another fixed
frame, sent by the host, asks for the last response again.
-/
namespace NfcLink.Ack

def frame : Bytes := [0x00, 0x00, 0xFF, 0x00, 0xFF, 0x00]

def negative : Bytes := [0x00, 0x00, 0xFF, 0xFF, 0x00, 0x00]

def accepts (bytes : Bytes) : Bool := bytes == frame

def expect (bytes : Bytes) : Except Error Unit :=
  if accepts bytes then .ok () else .error (.invalidAck bytes)

end NfcLink.Ack
