/-
What one inbound message came to.

An event carries the outcome of its own message: what was read from it, or why
the message was refused.
-/

import NfcHost.Activation
import NfcHost.Deactivation
import NfcHost.Packet.Message
import NfcHost.Reset

namespace NfcHost

inductive Event where
  | reset (outcome : Except Fault ResetReport)
  | init (outcome : Except Fault Unit)
  | connectionCredits
  | discoverMap (outcome : Except Fault Unit)
  | discover (outcome : Except Fault Unit)
  | activated (outcome : Except Fault Activation)
  | deactivate (outcome : Except Fault Unit)
  | deactivated (outcome : Except Fault Deactivation)
  | data (connection : UInt8) (payload : Bytes)

namespace Event

def message : Event → Message
  | reset _ => .resetResponse
  | init _ => .initResponse
  | connectionCredits => .connectionCredits
  | discoverMap _ => .discoverMapResponse
  | discover _ => .discoverResponse
  | activated _ => .interfaceActivated
  | deactivate _ => .deactivateResponse
  | deactivated _ => .deactivated
  | data connection _ => .data connection

def name (event : Event) : String :=
  event.message.name

def fault? : Event → Option Fault
  | reset (.error fault) => some fault
  | init (.error fault) => some fault
  | discoverMap (.error fault) => some fault
  | discover (.error fault) => some fault
  | activated (.error fault) => some fault
  | deactivate (.error fault) => some fault
  | deactivated (.error fault) => some fault
  | _ => none

end Event
end NfcHost
