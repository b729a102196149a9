/-
Packet headers.

A header is three bytes: message type (3 bits), segmentation bit and group
(4 bits); two reserved bits and opcode (6 bits); length of the payload.  A data
packet carries its connection in place of the group and leaves the opcode zero.
-/

import NfcHost.Fault

namespace NfcHost

inductive MessageType where
  | data
  | command
  | response
  | notification
deriving DecidableEq, Repr

namespace MessageType

def bits : MessageType → UInt8
  | data => 0
  | command => 1
  | response => 2
  | notification => 3

/-- Four of the eight values are message types; the others are reserved. -/
def ofBits (bits : UInt8) : Except Fault MessageType :=
  match bits with
  | 0 => .ok data
  | 1 => .ok command
  | 2 => .ok response
  | 3 => .ok notification
  | _ => .error (.malformed (.messageType bits))

def name : MessageType → String
  | data => "DATA"
  | command => "CMD"
  | response => "RSP"
  | notification => "NTF"

theorem ofBits_bits (messageType : MessageType) :
    ofBits messageType.bits = .ok messageType := by
  cases messageType <;> rfl

end MessageType

/-! ### Groups and opcodes of control messages -/

namespace Group

@[match_pattern] abbrev core : UInt8 := 0x00
@[match_pattern] abbrev rf : UInt8 := 0x01

end Group

namespace Opcode

@[match_pattern] abbrev reset : UInt8 := 0x00
@[match_pattern] abbrev init : UInt8 := 0x01
@[match_pattern] abbrev connectionCredits : UInt8 := 0x06

@[match_pattern] abbrev discoverMap : UInt8 := 0x00
@[match_pattern] abbrev discover : UInt8 := 0x03
@[match_pattern] abbrev interfaceActivated : UInt8 := 0x05
@[match_pattern] abbrev deactivate : UInt8 := 0x06

end Opcode

structure Header where
  messageType : MessageType
  segmented : Bool
  group : UInt8
  opcode : UInt8
  length : UInt8
deriving DecidableEq, Repr

namespace Header

abbrev size : Nat := 3

def control (messageType : MessageType) (group opcode length : UInt8) : Header :=
  { messageType := messageType
    segmented := false
    group := group &&& 0x0F
    opcode := opcode &&& 0x3F
    length := length }

def data (connection length : UInt8) : Header :=
  { messageType := .data
    segmented := false
    group := connection &&& 0x0F
    opcode := 0
    length := length }

def connection (header : Header) : UInt8 :=
  header.group

/-- The wire form.  Bits of a field that do not fit are left out. -/
def encode (header : Header) : Bytes :=
  [ (header.messageType.bits <<< 5) ||| (header.group &&& 0x0F) |||
      (if header.segmented then 0x10 else 0x00),
    header.opcode &&& 0x3F,
    header.length ]

/-- Reads a header off the front.  A segmented packet is reported, not refused. -/
def decode (bytes : Bytes) : Except Fault Header :=
  match bytes with
  | first :: second :: third :: _ =>
      match MessageType.ofBits (first >>> 5) with
      | .error fault => .error fault
      | .ok messageType =>
          .ok
            { messageType := messageType
              segmented := first &&& 0x10 != 0
              group := first &&& 0x0F
              opcode := second &&& 0x3F
              length := third }
  | _ => .error (.invalidLength size bytes.length)

theorem encode_length (header : Header) : header.encode.length = size := rfl

end Header
end NfcHost
