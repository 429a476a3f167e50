import NfcLink.Bytes

/-!
# Checksums

A frame carries two: one octet that brings its length field to zero, and one
that brings the sum of its data to zero, both modulo 256.
-/
namespace NfcLink.Checksum

def sum (data : Bytes) : UInt8 := data.foldl (· + ·) 0

def ofLength (length : UInt8) : UInt8 := 0 - length

def ofData (data : Bytes) : UInt8 := 0 - sum data

def lengthMatches (length checksum : UInt8) : Bool := length + checksum == 0

def dataMatches (data : Bytes) (checksum : UInt8) : Bool := sum data + checksum == 0

theorem lengthMatches_iff (length checksum : UInt8) :
    lengthMatches length checksum = true ↔ checksum = ofLength length := by
  simp only [lengthMatches, ofLength, beq_iff_eq]
  grind

theorem dataMatches_iff (data : Bytes) (checksum : UInt8) :
    dataMatches data checksum = true ↔ checksum = ofData data :=
  lengthMatches_iff (sum data) checksum

end NfcLink.Checksum
