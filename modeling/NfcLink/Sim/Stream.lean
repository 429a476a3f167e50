import NfcLink.Sim.Bench
import NfcLink.Sim.Reply
import NfcLink.Transport

/-!
# Scripted transport

A transport that keeps every write and serves reads from one queue of bytes,
whatever was written. It can be told not to be ready and to refuse writes.
-/
namespace NfcLink

structure StreamDevice where
  sent : List Bytes := []
  queue : Bytes := []
  busyPolls : Nat := 0
  alwaysBusy : Bool := false
  refusedSends : Nat := 0
  polls : Nat := 0
  opens : Nat := 0
  wakes : Nat := 0
  ackBudgetMs : Nat := defaultAckBudgetMs
  deriving DecidableEq, Repr

namespace StreamDevice

/-- Payloads of the writes that are well-formed frames. -/
def commands (device : StreamDevice) : List Bytes :=
  device.sent.filterMap fun bytes =>
    match Frame.decode bytes with
    | .ok frame => some frame.payload
    | .error _ => none

def push (bytes : Bytes) (device : StreamDevice) : StreamDevice :=
  { device with queue := device.queue ++ bytes }

/-- Sets up the answer to a command. -/
def rehearse (command : UInt8) (data : Bytes) (device : StreamDevice) : StreamDevice :=
  device.push (Reply.full command data)

def poll (device : StreamDevice) : Bool × StreamDevice :=
  let device := { device with polls := device.polls + 1 }
  if device.alwaysBusy then (false, device)
  else
    match device.busyPolls with
    | 0 => (true, device)
    | left + 1 => (false, { device with busyPolls := left })

def send (data : Bytes) (device : StreamDevice) : Except Error Unit × StreamDevice :=
  match device.refusedSends with
  | 0 => (.ok (), { device with sent := device.sent ++ [data] })
  | left + 1 => (.error (.bus "mock write failure"), { device with refusedSends := left })

/-- All or nothing: too few bytes stay in the queue. -/
def receive (wanted : Nat) (device : StreamDevice) : Except Error Bytes × StreamDevice :=
  if device.queue.length < wanted then (.error .timeout, device)
  else (.ok (device.queue.take wanted), { device with queue := device.queue.drop wanted })

instance : Transport (Bench StreamDevice) where
  kind _ := .simulated
  ackBudgetMs bench := bench.device.ackBudgetMs
  openBus := Bench.step fun device => (.ok (), { device with opens := device.opens + 1 })
  wake := Bench.step fun device => (.ok (), { device with wakes := device.wakes + 1 })
  poll := Bench.step fun device =>
    let (ready, device) := device.poll
    (.ok ready, device)
  send data := Bench.step (StreamDevice.send data)
  receive wanted _ := Bench.step (StreamDevice.receive wanted)

end StreamDevice

end NfcLink
