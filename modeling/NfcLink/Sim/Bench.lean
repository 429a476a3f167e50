import NfcLink.Host

/-!
# Benches

A bench is a simulated device together with the host's clock and journal. Pauses
move the clock on, and so does looking at it when `tickNs` is not zero.
-/
namespace NfcLink

structure Bench (δ : Type) where
  device : δ
  clockNs : Nat := 0
  tickNs : Nat := 0
  journal : List Notice := []
  deriving DecidableEq

namespace Bench

variable {δ α : Type}

def elapse (milliseconds : Nat) (bench : Bench δ) : Bench δ :=
  { bench with clockNs := bench.clockNs + milliseconds * nanosecondsPerMillisecond }

instance : Host (Bench δ) where
  now bench := (bench.clockNs, { bench with clockNs := bench.clockNs + bench.tickNs })
  sleep := elapse
  record notice bench := { bench with journal := bench.journal ++ [notice] }

/-- A step of the device alone. -/
def step (act : δ → Except Error α × δ) : Action (Bench δ) α :=
  Action.ofStep fun bench =>
    let (answer, device) := act bench.device
    (answer, { bench with device })

end Bench

end NfcLink
