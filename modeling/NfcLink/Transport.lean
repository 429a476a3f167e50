import NfcLink.Bus.Kind
import NfcLink.Host

/-!
# Transports

A transport moves bytes between the host and the controller over one bus. What
the bytes mean is not its business.
-/
namespace NfcLink

/-- Milliseconds for which an acknowledge frame is awaited unless a transport says otherwise. -/
def defaultAckBudgetMs : Nat := 10

class Transport (σ : Type) where
  kind : σ → BusKind
  ackBudgetMs : σ → Nat
  openBus : Action σ Unit
  wake : Action σ Unit
  /-- Whether the controller has a frame to be read. -/
  poll : Action σ Bool
  send : Bytes → Action σ Unit
  /-- Exactly so many bytes, within so many milliseconds. -/
  receive : Nat → Nat → Action σ Bytes

namespace Transport

variable {σ : Type} [Host σ] [Transport σ]

/-- Enters a notice that names the bus. -/
def note (notice : BusKind → Notice) : Action σ Unit := do
  let transport ← Action.get
  Host.note (notice (kind transport))

end Transport

end NfcLink
