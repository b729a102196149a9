/-
The messages a controller sends.

A header alone says which message a packet holds: data first, then the group,
then message type and opcode.
-/

import NfcHost.Packet.Header

namespace NfcHost

inductive Message where
  | data (connection : UInt8)
  | resetResponse
  | initResponse
  | connectionCredits
  | discoverMapResponse
  | discoverResponse
  | deactivateResponse
  | interfaceActivated
  | deactivated
deriving DecidableEq, Repr

def Message.name : Message → String
  | data _ => "DATA"
  | resetResponse => "CORE_RESET_RSP"
  | initResponse => "CORE_INIT_RSP"
  | connectionCredits => "CORE_CONN_CREDITS_NTF"
  | discoverMapResponse => "RF_DISCOVER_MAP_RSP"
  | discoverResponse => "RF_DISCOVER_RSP"
  | deactivateResponse => "RF_DEACTIVATE_RSP"
  | interfaceActivated => "RF_INTF_ACTIVATED_NTF"
  | deactivated => "RF_DEACTIVATE_NTF"

namespace Header

def coreResponse? (opcode : UInt8) : Option Message :=
  match opcode with
  | Opcode.reset => some .resetResponse
  | Opcode.init => some .initResponse
  | _ => none

def coreNotification? (opcode : UInt8) : Option Message :=
  match opcode with
  | Opcode.connectionCredits => some .connectionCredits
  | _ => none

def rfResponse? (opcode : UInt8) : Option Message :=
  match opcode with
  | Opcode.discoverMap => some .discoverMapResponse
  | Opcode.discover => some .discoverResponse
  | Opcode.deactivate => some .deactivateResponse
  | _ => none

def rfNotification? (opcode : UInt8) : Option Message :=
  match opcode with
  | Opcode.interfaceActivated => some .interfaceActivated
  | Opcode.deactivate => some .deactivated
  | _ => none

def groupMessage (header : Header) (response? notification? : UInt8 → Option Message) :
    Except Fault Message :=
  let unknown : Fault := .unknownOpcode header.group header.opcode
  match header.messageType with
  | .response => (response? header.opcode).elim (.error unknown) .ok
  | .notification => (notification? header.opcode).elim (.error unknown) .ok
  | messageType => .error (.malformed (.unexpectedType messageType.name))

def message (header : Header) : Except Fault Message :=
  if header.messageType = .data then
    .ok (.data header.connection)
  else
    match header.group with
    | Group.core => header.groupMessage coreResponse? coreNotification?
    | Group.rf => header.groupMessage rfResponse? rfNotification?
    | group => .error (.unknownGroup group)

end Header
end NfcHost
