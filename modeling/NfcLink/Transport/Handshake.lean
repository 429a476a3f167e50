import NfcLink.Frame
import NfcLink.Frame.Ack
import NfcLink.Transport

/-!
# Command and response

Every exchange has the same form on every bus: the host writes a command frame,
waits until the controller is ready and reads its acknowledgement, then waits
again and reads the response. The head of a response is judged before the rest
is requested, so that no byte of a later frame is taken.
-/
namespace NfcLink.Transport

variable {σ : Type} [Host σ] [Transport σ]

/-- Polls, and polls again after each of `left` pauses. -/
def pollWithin : (left : Nat) → Action σ Unit
  | 0 => do
    if ← poll then pure () else Action.fail .timeout
  | left + 1 => do
    if ← poll then pure ()
    else do
      Host.pause pollIntervalMs
      pollWithin left

def pollForever : (rounds : Nat) → Action σ Unit
  | 0 => Action.unfinished
  | rounds + 1 => do
    if ← poll then pure ()
    else do
      Host.pause pollIntervalMs
      pollForever rounds

/-- One poll a millisecond for `budgetMs` milliseconds after the first; a budget of zero has no
end. -/
def awaitReady (budgetMs : Nat) : Action σ Unit :=
  if budgetMs = 0 then do
    let rounds ← Action.patience
    pollForever rounds
  else pollWithin budgetMs

def putCommand (header body : Bytes) : Action σ Unit := do
  let frame ← Frame.encode header body
  note (.commandWritten · frame)
  send frame
  let transport ← Action.get
  let budget := ackBudgetMs transport
  (awaitReady budget).onFailure fun _ => note .ackMissing
  let ack ← receive Ack.frame.length budget
  note (.ackRead · ack)
  (Action.ofExcept (Ack.expect ack)).onFailure fun _ => note (.ackInvalid · ack)

/-- A response opens with the code of its command plus one. -/
def responseData (command : UInt8) : Bytes → Except Error Bytes
  | code :: data =>
    if code = command + 1 then .ok data else .error (.commandMismatch (command + 1) code)
  | [] => .error (.invalidFrame .noResponseCode)

def takeResponse (command : UInt8) (timeoutMs capacity : Nat) : Action σ Bytes := do
  awaitReady timeoutMs
  let head ← receive Frame.headLength timeoutMs
  let length ← (Action.ofExcept (Frame.declaredLength head)).onFailure fun error =>
    note (.headInvalid · head error)
  -- The length counts the identifier and the response code.
  let needed := length - 2
  if needed > capacity then Action.fail (.noSpace needed capacity)
  else do
    let rest ← receive (length + 2) timeoutMs
    note (.responseRead · (head ++ rest))
    let frame ← Frame.decode (head ++ rest)
    let payload ← frame.response
    responseData command payload

end NfcLink.Transport
