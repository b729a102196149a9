/-
Whole packets.

A packet is a header with the payload it announces.  Building one checks that
the payload fits; reading one accepts exactly the byte strings that hold a
single unsegmented packet and nothing more.
-/

import NfcHost.Packet.Header

namespace NfcHost

structure Packet where
  header : Header
  payload : Bytes
deriving DecidableEq, Repr

namespace Packet

abbrev maxPayload : Nat := 255

abbrev lastConnection : UInt8 := 0x0F

def payloadLength (payload : Bytes) : Except Fault UInt8 :=
  if payload.length ≤ maxPayload then
    .ok (UInt8.ofNat payload.length)
  else
    .error (.invalidParameter (.payloadTooLong payload.length))

def control (messageType : MessageType) (group opcode : UInt8) (payload : Bytes) :
    Except Fault Packet :=
  match payloadLength payload with
  | .error fault => .error fault
  | .ok length => .ok ⟨.control messageType group opcode length, payload⟩

def data (connection : UInt8) (payload : Bytes) : Except Fault Packet :=
  if connection ≤ lastConnection then
    match payloadLength payload with
    | .error fault => .error fault
    | .ok length => .ok ⟨.data connection length, payload⟩
  else
    .error (.invalidParameter (.connectionOutOfRange connection))

def wireSize (packet : Packet) : Nat :=
  Header.size + packet.payload.length

def encode (packet : Packet) : Bytes :=
  packet.header.encode ++ packet.payload

/-- Reads one packet that takes up all of `bytes`.  The length is checked before
the segmentation bit. -/
def decode (bytes : Bytes) : Except Fault Packet :=
  match Header.decode bytes with
  | .error fault => .error fault
  | .ok header =>
      if bytes.length ≠ Header.size + header.length.toNat then
        .error (.invalidLength (Header.size + header.length.toNat) bytes.length)
      else if header.segmented then
        .error (.malformed .segmented)
      else
        .ok ⟨header, bytes.drop Header.size⟩

theorem encode_length (packet : Packet) : packet.encode.length = packet.wireSize := by
  simp [encode, wireSize, Header.encode_length]

end Packet
end NfcHost
