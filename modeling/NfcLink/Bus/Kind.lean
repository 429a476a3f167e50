/-!
# Bus kinds
-/
namespace NfcLink

/-- What connects the host to the controller. -/
inductive BusKind where
  | spi
  | i2c
  | hsu
  | simulated
  deriving DecidableEq, Repr

namespace BusKind

def text : BusKind → String
  | spi => "SPI"
  | i2c => "I2C"
  | hsu => "HSU"
  | simulated => "mock"

end BusKind

end NfcLink
