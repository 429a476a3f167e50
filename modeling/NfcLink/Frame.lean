import NfcLink.Error
import NfcLink.Frame.Checksum

/-!
# Information frames

A frame on the wire is `00 00 FF`, a length octet and its checksum, then the
identifier and payload that the length counts, their checksum, and a closing
zero. `encodeFrom` writes that form and `decode` accepts it alone. `declaredLength`
judges the first five octets, so that a reader knows how much is still to come
before it asks for the rest.
-/
namespace NfcLink

structure Frame where
  /-- The direction octet: who sent the frame. -/
  identifier : UInt8
  /-- What stands between the identifier and the data checksum. -/
  payload : Bytes
  deriving DecidableEq, Repr

namespace Frame

def start : Bytes := [0x00, 0x00, 0xFF]

def closing : UInt8 := 0x00

def fromHost : UInt8 := 0xD4

def fromController : UInt8 := 0xD5

/-- Octets before the identifier. -/
def headLength : Nat := 5

/-- Octets around the identifier and payload. -/
def overhead : Nat := headLength + 2

/-- The length field is one octet. -/
def maxCounted : Nat := 255

def encodeFrom (identifier : UInt8) (header body : Bytes) : Except Error Bytes :=
  let counted := header.length + body.length + 1
  if counted > maxCounted then .error (.invalidLength maxCounted counted)
  else
    let length := UInt8.ofNat counted
    let data := identifier :: (header ++ body)
    .ok (start ++ [length, Checksum.ofLength length] ++ data ++ [Checksum.ofData data, closing])

def encode (header body : Bytes) : Except Error Bytes :=
  encodeFrom fromHost header body

/-- The declared length of an acceptable head. -/
def declaredLength : Bytes → Except Error Nat
  | first :: second :: third :: length :: checksum :: _ =>
    if [first, second, third] ≠ start then .error (.invalidFrame .preamble)
    else if !Checksum.lengthMatches length checksum then
      .error (.invalidFrame (.lengthChecksum length checksum))
    else if length = 0 then .error (.invalidFrame .empty)
    else .ok length.toNat
  | short => .error (.invalidFrame (.truncatedHead short.length))

/-- What follows an accepted head must be `length` counted octets, their checksum and the closing
octet, and nothing else. -/
def ofDeclared (frame : Bytes) (length : Nat) : Except Error Frame :=
  match (frame.drop headLength).take length, frame.drop (headLength + length) with
  | identifier :: payload, [checksum, last] =>
    if identifier ≠ fromHost ∧ identifier ≠ fromController then
      .error (.invalidFrame (.identifier identifier))
    else if !Checksum.dataMatches (identifier :: payload) checksum then
      .error (.invalidFrame
        (.dataChecksum (Checksum.ofData (identifier :: payload)) checksum))
    else if last ≠ closing then .error (.invalidFrame .postamble)
    else .ok ⟨identifier, payload⟩
  | _, _ => .error (.invalidFrame (.lengthMismatch (overhead + length) frame.length))

def decode (frame : Bytes) : Except Error Frame := do
  let length ← declaredLength frame
  ofDeclared frame length

/-- Decodes into a buffer of fixed size and tells how many octets of it were written. The declared
length is held against the buffer before the rest of the frame is looked at. -/
def fill (frame buffer : Bytes) : Except Error Nat × Bytes :=
  match declaredLength frame with
  | .error fault => (.error fault, buffer)
  | .ok length =>
    let needed := length - 1
    if needed > buffer.length then (.error (.noSpace needed buffer.length), buffer)
    else
      match ofDeclared frame length with
      | .error fault => (.error fault, buffer)
      | .ok decoded => (.ok needed, decoded.payload ++ buffer.drop needed)

/-- Only a frame that the controller sent is a response. -/
def response (frame : Frame) : Except Error Bytes :=
  if frame.identifier = fromController then .ok frame.payload
  else .error (.invalidFrame (.direction frame.identifier))

end Frame

end NfcLink
