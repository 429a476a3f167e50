import NfcLink.Link
import NfcLink.Sim.Bench

/-!
# Scripted peer

A link whose reads follow a script of frames and errors, with a timeout at its
end, and whose writes are kept.
-/
namespace NfcLink

structure PeerScript where
  inbound : List (Except Error Bytes) := []
  written : List Bytes := []
  activations : List Nat := []
  activationError : Option Error := none
  refusedWrites : Nat := 0

namespace PeerScript

def activate (timeoutMs : Nat) (script : PeerScript) : Except Error Unit × PeerScript :=
  let kept := { script with
    activations := script.activations ++ [timeoutMs], activationError := none }
  match script.activationError with
  | some error => (.error error, kept)
  | none => (.ok (), kept)

def read (script : PeerScript) : Except Error Bytes × PeerScript :=
  match script.inbound with
  | entry :: inbound => (entry, { script with inbound })
  | [] => (.error .timeout, script)

def write (header body : Bytes) (script : PeerScript) : Except Error Unit × PeerScript :=
  match script.refusedWrites with
  | left + 1 => (.error (.bus "mock link write failure"), { script with refusedWrites := left })
  | 0 => (.ok (), { script with written := script.written ++ [header ++ body] })

instance : PeerLink (Bench PeerScript) where
  activate timeoutMs := Bench.step (PeerScript.activate timeoutMs)
  read := Bench.step PeerScript.read
  write header body := Bench.step (PeerScript.write header body)

end PeerScript

end NfcLink
