import NfcLink.Llcp.Endpoint
import NfcLink.Snep.Message

/-!
# Object exchange

One object per connection: `push` brings an object to the peer as initiator,
`pull` takes one from the peer as target.
-/
namespace NfcLink

structure SnepSettings where
  /-- Timeout of activation and connection, zero for none. -/
  timeoutMs : Nat := 20000
  /-- Whether requests with stray octets in front are taken. -/
  acceptShifted : Bool := true
  deriving DecidableEq, Repr

namespace Snep

variable {σ : Type} [Host σ] [PeerLink σ]

/-- Once the peer reports success the object is delivered, so the release that follows may fail. -/
def pushWithin (object : Bytes) (timeoutMs : Nat) : Action (Endpoint σ) Unit :=
  if object.length > maxObject then Action.fail (.payloadTooLarge object.length maxObject)
  else do
    Endpoint.activate timeoutMs
    Endpoint.connect timeoutMs
    Host.note (.pushing object.length)
    Endpoint.transmit (header putRequest object.length) object
    let response ← Endpoint.receive
    expectSuccess response
    match ← Endpoint.release.attempt with
    | .ok _ => pure ()
    | .error error => Host.note (.releaseFailed error)

/-- A request as its sender meant it. -/
def realign (acceptShifted : Bool) (request : Bytes) : Action (Endpoint σ) Bytes :=
  if acceptShifted && shifted request then do
    Host.note (.headerShifted (request.take 4))
    return request.drop 4
  else return request

def pullWithin (acceptShifted : Bool) (timeoutMs : Nat) : Action (Endpoint σ) Bytes := do
  Endpoint.activate timeoutMs
  Endpoint.accept timeoutMs
  let request ← Endpoint.receive
  request.requireLength headerLength
  let aligned ← realign acceptShifted request
  let object ← object aligned
  Host.note (.pulled object.length)
  Endpoint.transmit (header success 0) []
  return object

def push (settings : SnepSettings) (object : Bytes) : Action (Endpoint σ) Unit :=
  pushWithin object settings.timeoutMs

def pull (settings : SnepSettings) : Action (Endpoint σ) Bytes :=
  pullWithin settings.acceptShifted settings.timeoutMs

end Snep

end NfcLink
