/-
The commands a host sends to its controller.

A command names its group and opcode and writes its parameters.  The two list
commands write the number of entries before them and are refused when the list
is empty or does not fit in one packet.
-/

import NfcHost.Deactivation
import NfcHost.Discovery
import NfcHost.Packet
import NfcHost.Reset

namespace NfcHost

inductive Command where
  | reset (kind : ResetKind)
  | init
  | discoverMap (maps : List MapEntry)
  | discover (entries : List DiscoveryEntry)
  | deactivate (deactivationType : DeactivationType)
deriving DecidableEq, Repr

namespace Command

def group : Command → UInt8
  | reset _ => Group.core
  | init => Group.core
  | discoverMap _ => Group.rf
  | discover _ => Group.rf
  | deactivate _ => Group.rf

def opcode : Command → UInt8
  | reset _ => Opcode.reset
  | init => Opcode.init
  | discoverMap _ => Opcode.discoverMap
  | discover _ => Opcode.discover
  | deactivate _ => Opcode.deactivate

def name : Command → String
  | reset _ => "CORE_RESET"
  | init => "CORE_INIT"
  | discoverMap _ => "RF_DISCOVER_MAP"
  | discover _ => "RF_DISCOVER"
  | deactivate _ => "RF_DEACTIVATE"

/-- A list behind its number of entries, each entry `width` bytes wide. -/
def encodeList (list : EntryList) (width : Nat) (entries : List Bytes) : Except Fault Bytes :=
  if entries = [] then
    .error (.invalidParameter (.emptyList list))
  else if 1 + entries.length * width > Packet.maxPayload then
    .error (.invalidParameter (.listTooLong list entries.length))
  else
    .ok (UInt8.ofNat entries.length :: entries.flatten)

def encodeParameters : Command → Except Fault Bytes
  | reset kind => .ok [kind.code]
  | init => .ok []
  | discoverMap maps => encodeList .map 3 (maps.map MapEntry.encode)
  | discover entries => encodeList .configuration 2 (entries.map DiscoveryEntry.encode)
  | deactivate deactivationType => .ok [deactivationType.code]

def toPacket (command : Command) : Except Fault Packet :=
  match command.encodeParameters with
  | .error fault => .error fault
  | .ok payload => Packet.control .command command.group command.opcode payload

def encode (command : Command) : Except Fault Bytes :=
  command.toPacket.map Packet.encode

end Command
end NfcHost
