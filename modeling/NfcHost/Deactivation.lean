/-
Letting go of an endpoint: where the controller shall go, and why an endpoint
was released.
-/

import NfcHost.Field

namespace NfcHost

inductive DeactivationType where
  | idle
  | sleep
  | sleepAf
  | discovery
deriving DecidableEq, Repr

namespace DeactivationType

def code : DeactivationType → UInt8
  | idle => 0x00
  | sleep => 0x01
  | sleepAf => 0x02
  | discovery => 0x03

def ofCode (code : UInt8) : Except Fault DeactivationType :=
  match code with
  | 0x00 => .ok idle
  | 0x01 => .ok sleep
  | 0x02 => .ok sleepAf
  | 0x03 => .ok discovery
  | _ => .error (.invalidParameter (.deactivationType code))

def name : DeactivationType → String
  | idle => "IDLE"
  | sleep => "SLEEP"
  | sleepAf => "SLEEP_AF"
  | discovery => "DISCOVERY"

theorem ofCode_code (deactivationType : DeactivationType) :
    ofCode deactivationType.code = .ok deactivationType := by
  cases deactivationType <;> rfl

end DeactivationType

inductive DeactivationReason where
  | hostRequest
  | endpointRequest
  | rfLinkLoss
  | nfcBBadAfi
  | other (code : UInt8)
deriving DecidableEq, Repr

namespace DeactivationReason

def ofCode (code : UInt8) : DeactivationReason :=
  match code with
  | 0x00 => hostRequest
  | 0x01 => endpointRequest
  | 0x02 => rfLinkLoss
  | 0x03 => nfcBBadAfi
  | _ => other code

def name : DeactivationReason → String
  | hostRequest => "DhRequest"
  | endpointRequest => "EndpointRequest"
  | rfLinkLoss => "RfLinkLoss"
  | nfcBBadAfi => "NfcBBadAfi"
  | other code => "Other(" ++ toString code.toNat ++ ")"

end DeactivationReason

/-- A release, as the controller reports it.  Its type is kept as a byte, known
or not. -/
structure Deactivation where
  typeCode : UInt8
  reason : DeactivationReason
deriving DecidableEq, Repr

namespace Deactivation

def type? (deactivation : Deactivation) : Option DeactivationType :=
  (DeactivationType.ofCode deactivation.typeCode).toOption

def ofPayload (payload : Bytes) : Except Fault Deactivation := do
  Field.exactly payload 2
  let typeCode ← Field.byte payload 0
  let reason ← Field.byte payload 1
  return ⟨typeCode, .ofCode reason⟩

end Deactivation
end NfcHost
