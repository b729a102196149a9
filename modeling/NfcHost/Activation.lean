/-
Activated endpoints, as the controller announces them.

The announcement nests four lengths: of the technology parameters, of the
identifier and the select response within them, and of the activation
parameters.  Each is checked against the bytes it governs, and nothing beyond
the technology parameters is read as one of their fields.
-/

import NfcHost.Field
import NfcHost.Nfcid
import NfcHost.Rf

namespace NfcHost

structure PollAParameters where
  sensResponse : Block 2
  nfcid : Nfcid
  selectResponse : Option UInt8
deriving DecidableEq

inductive TechnologyParameters where
  | pollA (parameters : PollAParameters)
  | raw (bytes : Bytes)
deriving DecidableEq

structure Activation where
  discoveryId : UInt8
  interface : RfInterface
  protocol : RfProtocol
  technology : RfTechnology
  maxPayloadSize : UInt8
  initialCredits : UInt8
  parameters : TechnologyParameters
  exchangeTechnology : RfTechnology
  transmitBitRate : UInt8
  receiveBitRate : UInt8
  activationParameters : Bytes
deriving DecidableEq

namespace PollAParameters

/-- The identifier: a length byte at offset 2 and so many bytes behind it.  Whether
the length is allowed is decided before the bytes are looked for. -/
def nfcidField (bytes : Bytes) : Except Fault Nfcid := do
  let length ← Field.byte bytes 2
  if length.toNat ≤ Nfcid.maxLength then
    let content ← Field.slice bytes 3 length.toNat
    Nfcid.ofBytes content
  else
    .error (.malformed (.nfcidTooLong length.toNat))

/-- The select response: a length byte at the offset, and one byte behind it if
that is 1. -/
def selectField (bytes : Bytes) (offset : Nat) : Except Fault (Option UInt8) := do
  let length ← Field.byte bytes offset
  match length with
  | 0 => return none
  | 1 =>
      let response ← Field.byte bytes (offset + 1)
      return some response
  | _ => .error (.malformed (.selectResponseLength length))

def ofBytes (bytes : Bytes) : Except Fault PollAParameters := do
  let sensResponse ← Field.block bytes 0 2
  let nfcid ← nfcidField bytes
  let selectResponse ← selectField bytes (3 + nfcid.size)
  return ⟨sensResponse, nfcid, selectResponse⟩

end PollAParameters

namespace TechnologyParameters

/-- Only technology A in polling mode is taken apart, and only when there is
something to take apart. -/
def ofBytes (technology : RfTechnology) (bytes : Bytes) :
    Except Fault TechnologyParameters :=
  if technology = .pollA ∧ bytes ≠ [] then
    (PollAParameters.ofBytes bytes).map .pollA
  else
    .ok (.raw bytes)

end TechnologyParameters

namespace Activation

abbrev minPayload : Nat := 11

/-- Discovery id, interface, protocol, technology, payload limit, credits,
technology parameters behind their length, exchange technology, two bit rates,
activation parameters behind their length.  Bytes that follow are ignored. -/
def ofPayload (payload : Bytes) : Except Fault Activation := do
  Field.atLeast payload minPayload
  let discoveryId ← Field.byte payload 0
  let interface ← Field.byte payload 1
  let protocol ← Field.byte payload 2
  let technology ← Field.byte payload 3
  let maxPayloadSize ← Field.byte payload 4
  let initialCredits ← Field.byte payload 5
  let technologyLength ← Field.byte payload 6
  let technologyBytes ← Field.slice payload 7 technologyLength.toNat
  let parameters ← TechnologyParameters.ofBytes ⟨technology⟩ technologyBytes
  let tail := 7 + technologyLength.toNat
  let exchangeTechnology ← Field.byte payload tail
  let transmitBitRate ← Field.byte payload (tail + 1)
  let receiveBitRate ← Field.byte payload (tail + 2)
  let activationLength ← Field.byte payload (tail + 3)
  let activationParameters ← Field.slice payload (tail + 4) activationLength.toNat
  return {
    discoveryId := discoveryId
    interface := ⟨interface⟩
    protocol := ⟨protocol⟩
    technology := ⟨technology⟩
    maxPayloadSize := maxPayloadSize
    initialCredits := initialCredits
    parameters := parameters
    exchangeTechnology := ⟨exchangeTechnology⟩
    transmitBitRate := transmitBitRate
    receiveBitRate := receiveBitRate
    activationParameters := activationParameters }

def pollA? (activation : Activation) : Option PollAParameters :=
  match activation.parameters with
  | .pollA parameters => some parameters
  | .raw _ => none

def nfcid? (activation : Activation) : Option Nfcid :=
  activation.pollA?.map PollAParameters.nfcid

def selectResponse? (activation : Activation) : Option UInt8 :=
  activation.pollA?.bind PollAParameters.selectResponse

end Activation
end NfcHost
