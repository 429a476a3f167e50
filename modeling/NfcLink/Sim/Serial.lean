import NfcLink.Bus.Serial
import NfcLink.Sim.Bench
import NfcLink.Sim.Reply

/-!
# Simulated controller on a serial line

A well-formed frame written to it releases the next scripted reply into the
receive buffer. Bytes in the buffer are handed over at once; a read of an empty
buffer brings nothing.
-/
namespace NfcLink

/-- A line and the controller behind it, on the clock of a port that waits for bytes: a read of an
empty buffer lasts as long as it may. A buffer in memory would answer it at once, and a receive
would read again until its time was up. It receives the same, but the clock goes another way. -/
structure SerialDevice where
  baudRate : Option Nat := none
  written : Bytes := []
  buffer : Bytes := []
  replies : List Bytes := []
  deriving DecidableEq, Repr

namespace SerialDevice

/-- Sets up the answer to the next command that has none yet. -/
def rehearse (command : UInt8) (data : Bytes) (device : SerialDevice) : SerialDevice :=
  { device with replies := device.replies ++ [Reply.full command data] }

def setBaud (baudRate : Nat) (device : SerialDevice) : Except Error Unit × SerialDevice :=
  (.ok (), { device with baudRate := some baudRate })

def write (data : Bytes) (device : SerialDevice) : Except Error Unit × SerialDevice :=
  let device := { device with written := device.written ++ data }
  match Frame.decode data, device.replies with
  | .ok _, reply :: replies => (.ok (), { device with buffer := device.buffer ++ reply, replies })
  | _, _ => (.ok (), device)

def read (length : Nat) (device : SerialDevice) : Except Error Bytes × SerialDevice :=
  (.ok (device.buffer.take length), { device with buffer := device.buffer.drop length })

instance : SerialLine (Bench SerialDevice) where
  setBaud baudRate := Bench.step (SerialDevice.setBaud baudRate)
  write data := Bench.step (SerialDevice.write data)
  read length timeoutMs := do
    let bench ← Action.get
    if bench.device.buffer.isEmpty then Host.pause timeoutMs
    Bench.step (SerialDevice.read length)
  buffered := Bench.step fun device => (.ok device.buffer.length, device)

end SerialDevice

end NfcLink
