import NfcLink.Text.Hex

/-!
# Service access points and sequence numbers

A service access point is a six-bit address on the logical link. Information
PDUs are numbered modulo sixteen, so counting past fifteen starts again at
zero.
-/
namespace NfcLink

abbrev Sap := Fin 64

-- Named once, so that every literal below it refers to this proof.
instance sapsExist : @NeZero Nat Zero.ofOfNat0 64 := ⟨Nat.succ_ne_zero 63⟩

namespace Sap

def ofByte (octet : UInt8) : Sap := Fin.ofNat 64 octet.toNat

def toByte (sap : Sap) : UInt8 := UInt8.ofNat sap.val

def text (sap : Sap) : String := Hex.marked sap.toByte

end Sap

abbrev Seq := Fin 16

instance seqsExist : @NeZero Nat Zero.ofOfNat0 16 := ⟨Nat.succ_ne_zero 15⟩

namespace Seq

def ofByte (octet : UInt8) : Seq := Fin.ofNat 16 octet.toNat

def toByte (number : Seq) : UInt8 := UInt8.ofNat number.val

def next (number : Seq) : Seq := number + 1

def text (number : Seq) : String := toString number.val

/-- The numbers met on the way when `steps` PDUs are counted one after another. -/
def walk (number : Seq) : Nat → List Seq
  | 0 => []
  | steps + 1 => number.next :: walk number.next steps

end Seq

end NfcLink
