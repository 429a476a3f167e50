import NfcLink.Bytes.Field

/-!
# Exchange messages

A message opens with a version, a code and a four-octet length. A request to
put carries the object behind that header; a response of success carries
nothing.
-/
namespace NfcLink.Snep

/-- Major version in the high half of the octet. -/
def version : UInt8 := 0x10

def getRequest : UInt8 := 0x01

def putRequest : UInt8 := 0x02

def success : UInt8 := 0x81

def reject : UInt8 := 0xFF

def headerLength : Nat := 6

/-- The longest object that fits one frame: identifier, command code, PDU header and message header
take eleven of the counted octets. -/
def maxObject : Nat := 244

/-- Lengths are counted modulo 2³². -/
def header (code : UInt8) (length : Nat) : Bytes :=
  version :: code :: Bytes.bigEndian length

def expectVersion (octet : UInt8) : Except Error Unit :=
  if octet = version then .ok () else .error (.versionMismatch version octet)

def expectCode (wanted code : UInt8) : Except Error Unit :=
  if code = wanted then .ok () else .error (.opcodeMismatch wanted code)

def expectSuccess (response : Bytes) : Except Error Unit := do
  response.requireLength headerLength
  match response with
  | octet :: code :: _ => do
    expectVersion octet
    expectCode success code
  | short => throw (.invalidLength headerLength short.length)

/-- Some peers put four stray octets in front of the header. -/
def shifted (request : Bytes) : Bool :=
  decide (headerLength ≤ request.length) && request[0]? != some version &&
    request[4]? == some version

/-- The object of a request to put. What follows it is ignored. -/
def object : Bytes → Except Error Bytes
  | octet :: code :: a :: b :: c :: d :: field => do
    expectVersion octet
    expectCode putRequest code
    let length := Bytes.fromBigEndian a b c d
    if length > field.length then throw (.payloadTooLarge length field.length)
    else return field.take length
  | short => .error (.invalidLength headerLength short.length)

end NfcLink.Snep
