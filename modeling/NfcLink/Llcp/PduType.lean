import NfcLink.Llcp.Address

/-!
# PDU types

The four-bit type field of a logical link PDU. Types that this stack never
exchanges are kept as `other` with the bits they arrived with.
-/
namespace NfcLink

inductive PduType where
  | symm
  | pax
  | connect
  | disc
  | cc
  | dm
  | information
  | receiveReady
  | other (code : UInt8)
  deriving DecidableEq, Repr

namespace PduType

def ofBits (bits : Fin 16) : PduType :=
  match bits.val with
  | 0x0 => symm
  | 0x1 => pax
  | 0x4 => connect
  | 0x5 => disc
  | 0x6 => cc
  | 0x7 => dm
  | 0xC => information
  | 0xD => receiveReady
  | rest => other (UInt8.ofNat rest)

/-- Only the low four bits of an octet name a type. -/
def ofByte (octet : UInt8) : PduType := ofBits (Fin.ofNat 16 octet.toNat)

def bits : PduType → Fin 16
  | symm => 0x0
  | pax => 0x1
  | connect => 0x4
  | disc => 0x5
  | cc => 0x6
  | dm => 0x7
  | information => 0xC
  | receiveReady => 0xD
  | other code => Fin.ofNat 16 code.toNat

theorem bits_ofBits (bits : Fin 16) : (ofBits bits).bits = bits := by
  revert bits
  decide

/-- Types whose header carries the sequence octet. -/
def sequenced : PduType → Bool
  | information => true
  | receiveReady => true
  | _ => false

def text : PduType → String
  | symm => "SYMM"
  | pax => "PAX"
  | connect => "CONNECT"
  | disc => "DISC"
  | cc => "CC"
  | dm => "DM"
  | information => "I"
  | receiveReady => "RR"
  | other code => "PTYPE(" ++ Hex.markedShort code ++ ")"

/-- The constructor's name, as log entries list the types a wait is for. -/
def label : PduType → String
  | symm => "Symm"
  | pax => "Pax"
  | connect => "Connect"
  | disc => "Disc"
  | cc => "Cc"
  | dm => "Dm"
  | information => "I"
  | receiveReady => "Rr"
  | other code => "Other(" ++ toString code.toNat ++ ")"

/-- Alternatives joined by a bar. -/
def alternatives (types : List PduType) : String :=
  "|".intercalate (types.map text)

def labels (types : List PduType) : String :=
  "[" ++ ", ".intercalate (types.map label) ++ "]"

end PduType

end NfcLink
