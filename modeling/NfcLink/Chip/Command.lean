import NfcLink.Bytes

/-!
# Controller commands

The command buffers that peer-to-peer exchange needs. The first octet is the
command code.
-/
namespace NfcLink.Command

def firmwareVersion : Bytes := [0x02]

/-- Normal mode, a virtual card timeout of twenty times 50 ms, interrupt line driven. -/
def samConfiguration : Bytes := [0x14, 0x01, 0x14, 0x01]

def fieldConfiguration : UInt8 := 0x32

/-- Bit 1 looks for a field of another device first, bit 0 switches our own on. -/
def field (avoidCollision on : Bool) : Bytes :=
  [fieldConfiguration, 0x01, (if avoidCollision then 0x02 else 0x00) + (if on then 0x01 else 0x00)]

/-- Retries of passive activation, 0xFF for no end; the two other counters keep their defaults. -/
def retries (limit : UInt8) : Bytes :=
  [fieldConfiguration, 0x05, 0xFF, 0x01, limit]

/-- Target zero stands for all targets. -/
def release (target : UInt8) : Bytes := [0x52, target]

def initAsTargetCode : UInt8 := 0x8C

/-- Passive target for peer-to-peer exchange only, with the general bytes that announce a logical
link. -/
def initAsPeer : Bytes :=
  [initAsTargetCode,
    -- mode
    0x00,
    -- card-emulation parameters: no identifier, exchange protocol announced
    0x00, 0x00, 0x00, 0x00, 0x00, 0x40,
    -- polling response
    0x01, 0xFE, 0x0F, 0xBB, 0xBA, 0xA6, 0xC9, 0x89,
    0x00, 0x00, 0x00, 0x00, 0x00, 0x00, 0x00, 0x00,
    0xFF, 0xFF,
    -- identifier
    0x01, 0xFE, 0x0F, 0xBB, 0xBA, 0xA6, 0xC9, 0x89, 0x00, 0x00,
    -- general bytes: magic number, version 1.0, information fields of 128 more bytes
    0x0A, 0x46, 0x66, 0x6D, 0x01, 0x01, 0x10, 0x02, 0x02, 0x00, 0x80,
    -- historical bytes
    0x00]

def getData : Bytes := [0x86]

def setData (header : Bytes) : Bytes := 0x8E :: header

end NfcLink.Command
