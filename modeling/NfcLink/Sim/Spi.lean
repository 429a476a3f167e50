import NfcLink.Bus.Spi
import NfcLink.Sim.Bench
import NfcLink.Sim.Reply

/-!
# Simulated controller on SPI

Each data write releases the next scripted reply into one stream of output, from
which data reads take. Past its end the stream is zeros.
-/
namespace NfcLink

structure SpiDevice where
  bitOrder : BitOrder := .msbFirst
  configured : Option (Nat × Nat) := none
  wireWrites : List Bytes := []
  frames : List Bytes := []
  output : Bytes := []
  replies : List Bytes := []
  deriving DecidableEq, Repr

namespace SpiDevice

/-- Sets up the answer to the next command that has none yet. -/
def rehearse (command : UInt8) (data : Bytes) (device : SpiDevice) : SpiDevice :=
  { device with replies := device.replies ++ [Reply.full command data] }

def setClock (clockHz mode : Nat) (device : SpiDevice) : Except Error Unit × SpiDevice :=
  (.ok (), { device with configured := some (clockHz, mode) })

def shiftOut (data : Bytes) (device : SpiDevice) : Except Error Unit × SpiDevice :=
  let device := { device with wireWrites := device.wireWrites ++ [data] }
  match device.bitOrder.onWire data with
  | operation :: frame =>
    if operation = SpiPort.dataWrite then
      let device := { device with frames := device.frames ++ [frame] }
      match device.replies with
      | reply :: replies => (.ok (), { device with output := device.output ++ reply, replies })
      | [] => (.ok (), device)
    else (.ok (), device)
  | [] => (.ok (), device)

/-- The first `wanted` octets of the output stream, filled up with zeros. -/
def served (wanted : Nat) (output : Bytes) : Bytes :=
  output.take wanted ++ List.replicate (wanted - output.length) 0

/-- A status transfer answers in the octet after the operation and sends the others back. -/
def withStatus (status : UInt8) : Bytes → Bytes
  | [] => []
  | _ :: rest => status :: rest

def unknownOperation (operation : Option UInt8) : Error :=
  .bus ("unknown SPI op " ++ Hex.optional operation)

def exchange (data : Bytes) (device : SpiDevice) : Except Error Bytes × SpiDevice :=
  match data with
  | [] => (.error (unknownOperation none), device)
  | first :: rest =>
    let operation := device.bitOrder.octet first
    if operation = SpiPort.statusRead then
      let status : UInt8 := if device.output.isEmpty then 0 else 1
      (.ok (0 :: withStatus (device.bitOrder.octet status) rest), device)
    else if operation = SpiPort.dataRead then
      (.ok (0 :: device.bitOrder.onWire (served rest.length device.output)),
        { device with output := device.output.drop rest.length })
    else (.error (unknownOperation (some operation)), device)

instance : SpiMaster (Bench SpiDevice) where
  setClock clockHz mode := Bench.step (SpiDevice.setClock clockHz mode)
  shiftOut data := Bench.step (SpiDevice.shiftOut data)
  exchange data := Bench.step (SpiDevice.exchange data)

end SpiDevice

end NfcLink
