/-
What can go wrong between the host and its controller.

A `Fault` names one cause in full.  Its wording is in `Fault.message` and its
nearest status in `Fault.status`.  A session tells its application less: a
`Setback` says only whether an operation was refused or failed.
-/

import NfcHost.Status

namespace NfcHost

inductive EntryList where
  | map
  | configuration
deriving DecidableEq, Repr

def EntryList.name : EntryList → String
  | map => "discover map"
  | configuration => "discover configuration"

inductive BadParameter where
  | payloadTooLong (size : Nat)
  | connectionOutOfRange (connection : UInt8)
  | emptyList (list : EntryList)
  | listTooLong (list : EntryList) (count : Nat)
  | deactivationType (code : UInt8)
  | noLink
  | worded (text : String)
deriving DecidableEq, Repr

def BadParameter.text : BadParameter → String
  | payloadTooLong size => "payload of " ++ toString size ++ " bytes exceeds 255"
  | connectionOutOfRange connection =>
      "conn id " ++ toString connection.toNat ++ " out of range"
  | emptyList list => "empty " ++ list.name ++ " list"
  | listTooLong list count =>
      list.name ++ " list of " ++ toString count ++ " entries does not fit in one packet"
  | deactivationType code => "deactivate type " ++ Hex.code code
  | noLink => "no transport"
  | worded text => text

/-- A packet or payload that breaks the rules of the interface. -/
inductive Malformation where
  | messageType (bits : UInt8)
  | segmented
  | unexpectedType (typeName : String)
  | nfcidTooLong (size : Nat)
  | selectResponseLength (size : UInt8)
  | worded (text : String)
deriving DecidableEq, Repr

def Malformation.text : Malformation → String
  | messageType bits => "invalid message type " ++ toString bits.toNat
  | segmented => "segmented packet"
  | unexpectedType typeName => "unexpected " ++ typeName ++ " from controller"
  | nfcidTooLong size => "nfcid length " ++ toString size ++ " exceeds 10"
  | selectResponseLength size => "sel_res length " ++ toString size.toNat
  | worded text => text

inductive Fault where
  | rejected
  | invalidParameter (cause : BadParameter)
  | malformed (cause : Malformation)
  | invalidLength (expected actual : Nat)
  | unknownGroup (group : UInt8)
  | unknownOpcode (group opcode : UInt8)
  | reported (status : Status)
  | tagStatus (code : UInt8)
  | noHeader
  | noPayload
  | shortWrite (expected actual : Nat)
  | timeout
  | transport (text : String)
deriving DecidableEq, Repr

namespace Fault

def message : Fault → String
  | rejected => "rejected in current state"
  | invalidParameter cause => "invalid parameter: " ++ cause.text
  | malformed cause => "syntax error: " ++ cause.text
  | invalidLength expected actual =>
      "invalid packet length: expected " ++ toString expected ++ ", got " ++ toString actual
  | unknownGroup group => "unknown group id " ++ Hex.code group
  | unknownOpcode group opcode =>
      "unknown opcode " ++ Hex.code opcode ++ " in group " ++ Hex.code group
  | reported status => "controller status: " ++ status.name
  | tagStatus code => "tag status " ++ Hex.code code
  | noHeader => "no header received"
  | noPayload => "no payload received"
  | shortWrite expected actual =>
      "short write: expected " ++ toString expected ++ ", wrote " ++ toString actual
  | timeout => "operation timed out"
  | transport text => "transport error: " ++ text

/-- The status code that comes closest to a fault.  Failures of the link and of
a tag have none of their own and count as `failed`. -/
def status : Fault → Status
  | rejected => .rejected
  | invalidParameter _ => .invalidParameter
  | malformed _ => .syntaxError
  | invalidLength _ _ => .syntaxError
  | unknownGroup _ => .unknownGroup
  | unknownOpcode _ _ => .unknownOpcode
  | reported status => status
  | tagStatus _ => .failed
  | noHeader => .failed
  | noPayload => .failed
  | shortWrite _ _ => .failed
  | timeout => .failed
  | transport _ => .failed

def ofStatus? : Status → Option Fault
  | .ok => none
  | .rejected => some .rejected
  | other => some (.reported other)

end Fault

/-- How an operation of a session ends when it does not succeed. -/
inductive Setback where
  | rejected
  | failed
deriving DecidableEq, Repr

namespace Setback

def message : Setback → String
  | rejected => "rejected"
  | failed => "failed"

/-- Only the status `rejected` counts as a refusal. -/
def ofStatus : Status → Setback
  | .rejected => .rejected
  | _ => .failed

end Setback

def Fault.setback (fault : Fault) : Setback :=
  .ofStatus fault.status

end NfcHost
