/-
Resetting a controller: what the host asks for, and what the controller says it
did.
-/

import NfcHost.Field

namespace NfcHost

inductive ResetKind where
  | keepConfig
  | resetConfig
deriving DecidableEq, Repr

def ResetKind.code : ResetKind → UInt8
  | keepConfig => 0x00
  | resetConfig => 0x01

inductive ConfigStatus where
  | kept
  | reset
  | other (code : UInt8)
deriving DecidableEq, Repr

def ConfigStatus.ofCode (code : UInt8) : ConfigStatus :=
  match code with
  | 0x00 => kept
  | 0x01 => reset
  | _ => other code

structure ResetReport where
  version : UInt8
  configStatus : ConfigStatus
deriving DecidableEq, Repr

namespace ResetReport

def major (report : ResetReport) : UInt8 :=
  report.version >>> 4

def minor (report : ResetReport) : UInt8 :=
  report.version &&& 0x0F

/-- Status, version, configuration status.  A wrong length is reported before a
bad status. -/
def ofPayload (payload : Bytes) : Except Fault ResetReport := do
  Field.exactly payload 3
  Field.statusOk payload
  let version ← Field.byte payload 1
  let configStatus ← Field.byte payload 2
  return ⟨version, .ofCode configStatus⟩

end ResetReport
end NfcHost
