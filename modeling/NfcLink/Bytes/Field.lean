import NfcLink.Error

/-!
# Fields of a byte string

Reading at a position that the byte string does not reach is an error that
names the length that would have been enough.
-/
namespace NfcLink.Bytes

def requireLength (data : Bytes) (least : Nat) : Except Error Unit :=
  if data.length < least then .error (.invalidLength least data.length) else .ok ()

def segment (data : Bytes) (start length : Nat) : Except Error Bytes := do
  requireLength data (start + length)
  return (data.drop start).take length

def octetAt (data : Bytes) (index : Nat) : Except Error UInt8 :=
  match data.drop index with
  | octet :: _ => .ok octet
  | [] => .error (.invalidLength (index + 1) data.length)

def wordAt (data : Bytes) (index : Nat) : Except Error Nat :=
  match data.drop index with
  | a :: b :: c :: d :: _ => .ok (fromBigEndian a b c d)
  | _ => .error (.invalidLength (index + 4) data.length)

/-- Target-mode responses open with a status octet, and zero alone means success. -/
def afterStatus : Bytes → Except Error Bytes
  | [] => .error (.invalidLength 1 0)
  | status :: rest => if status = 0 then .ok rest else .error (.targetStatus status)

end NfcLink.Bytes
