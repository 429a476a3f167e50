import NfcLink.Llcp.Operation
import NfcLink.Proofs.Llcp.Correspondence
import NfcLink.Snep.Exchange

/-!
# Sessions

A session is what a user asks of an endpoint, one request after the other, be it an
operation, a wait or the exchange of an object. What one request comes to does not keep the
next one from being made.
-/
namespace NfcLink

open NfcLink.Action Outcome

inductive Request where
  | perform (operation : Operation)
  | await (wanted : List PduType) (deadline : Deadline)
  | push (object : Bytes) (timeoutMs : Nat)
  | pull (acceptShifted : Bool) (timeoutMs : Nat)

section Sessions

variable {σ : Type} [Host σ] [PeerLink σ]

/-- What was received, if the request is for something to receive. -/
def Request.carryOut : Request → Action (Endpoint σ) (Option Bytes)
  | perform operation => operation.perform
  | await wanted deadline => do
    let pdu ← Endpoint.await wanted deadline
    return some pdu
  | push object timeoutMs => do
    Snep.pushWithin object timeoutMs
    return none
  | pull acceptShifted timeoutMs => do
    let object ← Snep.pullWithin acceptShifted timeoutMs
    return some object

/-- The result of each request. -/
def attend : List Request → Action (Endpoint σ) (List (Except Error (Option Bytes)))
  | [] => pure []
  | request :: later => do
    let result ← request.carryOut.attempt
    let results ← attend later
    return result :: results

end Sessions

theorem Bytes.requireLength_timeless (data : Bytes) (least : Nat) :
    data.requireLength least ≠ .error .timeout := by
  unfold Bytes.requireLength
  split <;> rintro ⟨⟩

namespace Snep

theorem expectVersion_timeless (octet : UInt8) : expectVersion octet ≠ .error .timeout := by
  unfold expectVersion
  split <;> rintro ⟨⟩

theorem expectCode_timeless (wanted code : UInt8) : expectCode wanted code ≠ .error .timeout := by
  unfold expectCode
  split <;> rintro ⟨⟩

theorem expectSuccess_timeless (response : Bytes) : expectSuccess response ≠ .error .timeout := by
  apply timeless_bind (Bytes.requireLength_timeless response headerLength)
  intro long
  split
  · exact timeless_bind (expectVersion_timeless _) fun _ => expectCode_timeless _ _
  · nofun

theorem object_timeless (request : Bytes) : object request ≠ .error .timeout := by
  unfold object
  split
  · apply timeless_bind (expectVersion_timeless _)
    intro version
    apply timeless_bind (expectCode_timeless _ _)
    intro code
    dsimp only
    split <;> nofun
  · nofun

end Snep

namespace Correspondence

variable {σ τ : Type} [Host σ] [PeerLink σ] [Host τ] [PeerLink τ]
variable (relation : Correspondence σ τ)

theorem pushWithin (object : Bytes) (timeoutMs : Nat) :
    relation.relates (Snep.pushWithin object timeoutMs) (Snep.pushWithin object timeoutMs) := by
  refine relation.ite (relation.fail ?_) ?_
  · nofun
  apply relation.bind (relation.activate timeoutMs)
  intro activated
  apply relation.bind (relation.connect timeoutMs)
  intro connected
  apply relation.bind (relation.noted _)
  intro noted
  apply relation.bind (relation.transmit _ object)
  intro transmitted
  apply relation.bind relation.receive
  intro response
  apply relation.bind (relation.lift (Snep.expectSuccess_timeless response))
  intro accepted
  apply relation.bind (relation.attempt relation.release)
  intro released
  cases released with
  | ok answer => exact relation.pure ()
  | error error => exact relation.noted _

theorem realign (acceptShifted : Bool) (request : Bytes) :
    relation.relates (Snep.realign acceptShifted request) (Snep.realign acceptShifted request) := by
  apply relation.ite
  · exact relation.bind (relation.noted _) fun _ => relation.pure _
  · exact relation.pure _

theorem pullWithin (acceptShifted : Bool) (timeoutMs : Nat) :
    relation.relates (Snep.pullWithin acceptShifted timeoutMs)
      (Snep.pullWithin acceptShifted timeoutMs) := by
  apply relation.bind (relation.activate timeoutMs)
  intro activated
  apply relation.bind (relation.accept timeoutMs)
  intro accepted
  apply relation.bind relation.receive
  intro request
  apply relation.bind (relation.lift (Bytes.requireLength_timeless request _))
  intro long
  apply relation.bind (relation.realign acceptShifted request)
  intro aligned
  apply relation.bind (relation.lift (Snep.object_timeless aligned))
  intro object
  apply relation.bind (relation.noted _)
  intro noted
  exact relation.bind (relation.transmit _ []) fun _ => relation.pure object

theorem carryOut (request : Request) : relation.relates request.carryOut request.carryOut := by
  cases request with
  | perform operation => exact relation.perform operation
  | await wanted deadline =>
    exact relation.bind (relation.waited wanted deadline) fun _ => relation.pure _
  | push object timeoutMs =>
    exact relation.bind (relation.pushWithin object timeoutMs) fun _ => relation.pure _
  | pull acceptShifted timeoutMs =>
    exact relation.bind (relation.pullWithin acceptShifted timeoutMs) fun _ => relation.pure _

theorem attend (requests : List Request) :
    relation.relates (NfcLink.attend requests) (NfcLink.attend requests) := by
  induction requests with
  | nil => exact relation.pure []
  | cons request later ih =>
    apply relation.bind (relation.attempt (relation.carryOut request))
    intro result
    exact relation.bind ih fun _ => relation.pure _

end Correspondence

end NfcLink
