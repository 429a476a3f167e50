import NfcLink.Llcp.Endpoint

/-!
# Operations

What a user can ask of an endpoint, as data: which operation, with which arguments.
`perform` is the endpoint doing it. Every operation but `receive` answers nothing.
-/
namespace NfcLink

inductive Operation where
  | activate (timeoutMs : Nat)
  | connect (timeoutMs : Nat)
  | accept (timeoutMs : Nat)
  | transmit (header body : Bytes)
  | receive
  | release
  | acceptRelease
  deriving DecidableEq, Repr

namespace Operation

/-- Ends with a connection when it succeeds. -/
def opens : Operation → Bool
  | connect _ => true
  | accept _ => true
  | _ => false

/-- Uses a connection and leaves it standing. -/
def transfers : Operation → Bool
  | transmit _ _ => true
  | receive => true
  | _ => false

/-- Makes sense only while there is a connection. -/
def needsConnection : Operation → Bool
  | transmit _ _ => true
  | receive => true
  | release => true
  | acceptRelease => true
  | _ => false

/-- The information field that was received, if any. -/
def perform {σ : Type} [Host σ] [PeerLink σ] :
    Operation → Action (Endpoint σ) (Option Bytes)
  | activate timeoutMs => do
    Endpoint.activate timeoutMs
    return none
  | connect timeoutMs => do
    Endpoint.connect timeoutMs
    return none
  | accept timeoutMs => do
    Endpoint.accept timeoutMs
    return none
  | transmit header body => do
    Endpoint.transmit header body
    return none
  | receive => do
    let field ← Endpoint.receive
    return some field
  | release => do
    Endpoint.release
    return none
  | acceptRelease => do
    Endpoint.acceptRelease
    return none

end Operation

end NfcLink
