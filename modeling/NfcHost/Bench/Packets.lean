/-
Packets a controller sends, for trying a host out.

They are built by hand and not checked: the length byte is the low byte of the
payload's length, so packets that no controller could send can be built as well.
-/

import NfcHost.Status

namespace NfcHost.Bench

def packet (first second : UInt8) (payload : Bytes) : Bytes :=
  first :: second :: UInt8.ofNat payload.length :: payload

def resetResponse (status : Status) : Bytes :=
  packet 0x40 0x00 [status.code, 0x10, 0x00]

def initResponse (status : Status) : Bytes :=
  packet 0x40 0x01
    [ status.code, 0x03, 0x00, 0x00, 0x00, 0x02, 0x01, 0x02, 0x01, 0x00, 0x01, 0xFF, 0x00,
      0x04, 0x04, 0x01, 0x02, 0x03, 0x04 ]

def discoverMapResponse (status : Status) : Bytes :=
  packet 0x41 0x00 [status.code]

def discoverResponse (status : Status) : Bytes :=
  packet 0x41 0x03 [status.code]

def deactivateResponse (status : Status) : Bytes :=
  packet 0x41 0x06 [status.code]

def deactivated (typeCode reason : UInt8) : Bytes :=
  packet 0x61 0x06 [typeCode, reason]

def connectionCredits : Bytes :=
  packet 0x60 0x06 [0x01, 0x00, 0x01]

def activatedPayload (nfcid : Bytes) (selectResponse : Option UInt8) : Bytes :=
  let select : Bytes :=
    match selectResponse with
    | some response => [0x01, response]
    | none => [0x00]
  let technology : Bytes := [0x44, 0x00, UInt8.ofNat nfcid.length] ++ nfcid ++ select
  [0x01, 0x01, 0x02, 0x00, 0xFF, 0x01, UInt8.ofNat technology.length] ++ technology ++
    [0x00, 0x00, 0x00, 0x00]

def activated (nfcid : Bytes) (selectResponse : Option UInt8) : Bytes :=
  packet 0x61 0x05 (activatedPayload nfcid selectResponse)

/-- A reply to a READ: sixteen bytes that tell which chunk they belong to, and a
status of zero. -/
def readReply (index : UInt8) : Bytes :=
  (List.range 16).map (fun place => (index * 0x10) ||| UInt8.ofNat place) ++ [0x00]

def data (connection : UInt8) (payload : Bytes) : Bytes :=
  packet (connection &&& 0x0F) 0x00 payload

end NfcHost.Bench
