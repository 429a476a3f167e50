import NfcLink.Text.Hex

/-!
# Firmware description

The controller describes itself in four octets: its model, the version and
revision of its firmware, and a set of supported card standards.
-/
namespace NfcLink

structure Firmware where
  ic : UInt8
  version : UInt8
  revision : UInt8
  support : UInt8
  deriving DecidableEq, Repr

namespace Firmware

/-- The description as one number, model first. -/
def word (firmware : Firmware) : Nat :=
  Bytes.fromBigEndian firmware.ic firmware.version firmware.revision firmware.support

def supportsIso14443B (firmware : Firmware) : Bool := firmware.support.toNat.testBit 0

def supportsIso14443A (firmware : Firmware) : Bool := firmware.support.toNat.testBit 1

def supportsIso18092 (firmware : Firmware) : Bool := firmware.support.toNat.testBit 2

def text (firmware : Firmware) : String :=
  let model := Hex.pair false firmware.ic
  s!"PN5{model} firmware {firmware.version.toNat}.{firmware.revision.toNat} " ++
    s!"(support {Hex.marked firmware.support})"

end Firmware

end NfcLink
