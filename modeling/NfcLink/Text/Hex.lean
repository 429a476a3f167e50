import NfcLink.Bytes

/-!
# Hexadecimal text

The ways in which octets are written: bare lower case (`d4022a`), spaced upper
case for dumps (`D4 02 2A`), a list of lower-case pairs (`[d4, 02]`), and a
single octet with its radix mark (`0x2a`).
-/
namespace NfcLink.Hex

def digit (upper : Bool) (value : Nat) : Char :=
  if value < 10 then Char.ofNat (48 + value)
  else Char.ofNat ((if upper then 55 else 87) + value)

def pair (upper : Bool) (octet : UInt8) : String :=
  String.ofList [digit upper (octet.toNat / 16), digit upper (octet.toNat % 16)]

def plain (bytes : Bytes) : String :=
  String.join (bytes.map (pair false))

def spaced (bytes : Bytes) : String :=
  " ".intercalate (bytes.map (pair true))

def bracketed (bytes : Bytes) : String :=
  "[" ++ spaced bytes ++ "]"

def listed (bytes : Bytes) : String :=
  "[" ++ ", ".intercalate (bytes.map (pair false)) ++ "]"

def marked (octet : UInt8) : String :=
  "0x" ++ pair false octet

/-- No leading zero is written. -/
def markedShort (octet : UInt8) : String :=
  if octet < 16 then "0x" ++ String.ofList [digit false octet.toNat] else marked octet

/-- A value that may be absent, the way a log entry shows it. -/
def optional : Option UInt8 → String
  | some octet => "Some(" ++ pair false octet ++ ")"
  | none => "None"

end NfcLink.Hex
