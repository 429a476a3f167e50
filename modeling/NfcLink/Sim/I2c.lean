import NfcLink.Bus.I2c
import NfcLink.Sim.Bench
import NfcLink.Sim.Reply

/-!
# Simulated controller on I²C

A well-formed frame written to it releases the next scripted reply, which is
several frames. Every read answers the pending frame from its first byte; a read
that covered all of it makes the next frame the pending one.
-/
namespace NfcLink

structure I2cDevice where
  writes : List (UInt8 × Bytes) := []
  frames : List Bytes := []
  replies : List (List Bytes) := []
  refusedReads : Nat := 0
  deriving DecidableEq, Repr

namespace I2cDevice

/-- Sets up the answer to the next command that has none yet. -/
def rehearse (command : UInt8) (data : Bytes) (device : I2cDevice) : I2cDevice :=
  { device with replies := device.replies ++ [[Ack.frame, Reply.response command data]] }

def write (address : UInt8) (data : Bytes) (device : I2cDevice) : Except Error Unit × I2cDevice :=
  let device := { device with writes := device.writes ++ [(address, data)] }
  match Frame.decode data, device.replies with
  | .ok _, reply :: replies => (.ok (), { device with frames := device.frames ++ reply, replies })
  | _, _ => (.ok (), device)

/-- The first `wanted` bytes of a frame, filled up with zeros. -/
def served (wanted : Nat) (frame : Bytes) : Bytes :=
  frame.take wanted ++ List.replicate (wanted - frame.length) 0

def read (length : Nat) (device : I2cDevice) : Except Error Bytes × I2cDevice :=
  match device.refusedReads with
  | left + 1 => (.error (.bus "mock read failure"), { device with refusedReads := left })
  | 0 =>
    match device.frames with
    | [] => (.ok (List.replicate length 0), device)
    | frame :: frames =>
      let answer := 0x01 :: served (length - 1) frame
      if frame.length ≤ length - 1 then (.ok answer, { device with frames })
      else (.ok answer, device)

instance : I2cMaster (Bench I2cDevice) where
  write address data := Bench.step (I2cDevice.write address data)
  read _ length := Bench.step (I2cDevice.read length)

end I2cDevice

end NfcLink
