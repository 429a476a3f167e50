/-!
# Byte strings

Everything on a wire is a list of octets. `bigEndian` writes a number in the
byte order of every multi-byte field of these protocols, `fromBigEndian` reads
it back.
-/
namespace NfcLink

abbrev Bytes := List UInt8

namespace Bytes

/-- The four octets of a number below 2³², most significant first. -/
def bigEndian (value : Nat) : Bytes :=
  [UInt8.ofNat (value / 16777216), UInt8.ofNat (value / 65536), UInt8.ofNat (value / 256),
    UInt8.ofNat value]

def fromBigEndian (a b c d : UInt8) : Nat :=
  ((a.toNat * 256 + b.toNat) * 256 + c.toNat) * 256 + d.toNat

theorem bigEndian_length (value : Nat) : (bigEndian value).length = 4 := rfl

theorem fromBigEndian_lt (a b c d : UInt8) : fromBigEndian a b c d < 4294967296 := by
  have ha := a.toNat_lt
  have hb := b.toNat_lt
  have hc := c.toNat_lt
  have hd := d.toNat_lt
  unfold fromBigEndian
  omega

/-- An octet with its bits in the opposite order, as a line that sends the low bit first sees it. -/
def reverseBits (octet : UInt8) : UInt8 :=
  (List.range 8).foldl (fun seen bit => seen ||| (((octet >>> UInt8.ofNat bit) &&& 1) <<<
    UInt8.ofNat (7 - bit))) 0

theorem reverseBits_reverseBits (octet : UInt8) : reverseBits (reverseBits octet) = octet := by
  have all : ∀ n : Fin 256, reverseBits (reverseBits (UInt8.ofNat n)) = UInt8.ofNat n := by
    decide +kernel
  have here := all ⟨octet.toNat, octet.toNat_lt⟩
  simpa using here

end Bytes

end NfcLink
