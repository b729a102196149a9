/-
The documents of the host's values.

Field and alternative names belong to the format and are written out here, once
for writing and once for reading.
-/

import NfcHost.Activation
import NfcHost.Capabilities
import NfcHost.Deactivation
import NfcHost.Discovery
import NfcHost.Document
import NfcHost.Reset

namespace NfcHost

open Document

/-! ### Codes -/

namespace Status

def ofAlternative? : String → Option Status
  | "Ok" => some ok
  | "Rejected" => some rejected
  | "MessageCorrupted" => some messageCorrupted
  | "Failed" => some failed
  | "NotInitialized" => some notInitialized
  | "SyntaxError" => some syntaxError
  | "SemanticError" => some semanticError
  | "UnknownGid" => some unknownGroup
  | "UnknownOid" => some unknownOpcode
  | "InvalidParam" => some invalidParameter
  | "MessageSizeExceeded" => some messageSizeExceeded
  | "DiscoveryAlreadyStarted" => some discoveryAlreadyStarted
  | "DiscoveryTargetActivationFailed" => some discoveryTargetActivationFailed
  | "DiscoveryTearDown" => some discoveryTearDown
  | "RfTransmissionError" => some rfTransmissionError
  | "RfProtocolError" => some rfProtocolError
  | "RfTimeoutError" => some rfTimeoutError
  | "NfceeInterfaceActivationFailed" => some nfceeInterfaceActivationFailed
  | "NfceeTransmissionError" => some nfceeTransmissionError
  | "NfceeProtocolError" => some nfceeProtocolError
  | "NfceeTimeoutError" => some nfceeTimeoutError
  | "BufferFull" => some bufferFull
  | _ => none

instance : Documented Status where
  toDocument
    | ok => .text "Ok"
    | rejected => .text "Rejected"
    | messageCorrupted => .text "MessageCorrupted"
    | failed => .text "Failed"
    | notInitialized => .text "NotInitialized"
    | syntaxError => .text "SyntaxError"
    | semanticError => .text "SemanticError"
    | unknownGroup => .text "UnknownGid"
    | unknownOpcode => .text "UnknownOid"
    | invalidParameter => .text "InvalidParam"
    | messageSizeExceeded => .text "MessageSizeExceeded"
    | discoveryAlreadyStarted => .text "DiscoveryAlreadyStarted"
    | discoveryTargetActivationFailed => .text "DiscoveryTargetActivationFailed"
    | discoveryTearDown => .text "DiscoveryTearDown"
    | rfTransmissionError => .text "RfTransmissionError"
    | rfProtocolError => .text "RfProtocolError"
    | rfTimeoutError => .text "RfTimeoutError"
    | nfceeInterfaceActivationFailed => .text "NfceeInterfaceActivationFailed"
    | nfceeTransmissionError => .text "NfceeTransmissionError"
    | nfceeProtocolError => .text "NfceeProtocolError"
    | nfceeTimeoutError => .text "NfceeTimeoutError"
    | bufferFull => .text "BufferFull"
    | other code => carrying "Other" (toDocument code)
  ofDocument? :=
    choice? ofAlternative? fun
      | "Other", content => (ofDocument? content).map other
      | _, _ => none

end Status

instance : Documented ResetKind where
  toDocument
    | .keepConfig => .text "KeepConfig"
    | .resetConfig => .text "ResetConfig"
  ofDocument? :=
    plainChoice? fun
      | "KeepConfig" => some .keepConfig
      | "ResetConfig" => some .resetConfig
      | _ => none

instance : Documented ConfigStatus where
  toDocument
    | .kept => .text "Kept"
    | .reset => .text "Reset"
    | .other code => carrying "Other" (toDocument code)
  ofDocument? :=
    choice?
      (fun
        | "Kept" => some .kept
        | "Reset" => some .reset
        | _ => none)
      (fun
        | "Other", content => (ofDocument? content).map .other
        | _, _ => none)

instance : Documented DeactivationType where
  toDocument
    | .idle => .text "Idle"
    | .sleep => .text "Sleep"
    | .sleepAf => .text "SleepAf"
    | .discovery => .text "Discovery"
  ofDocument? :=
    plainChoice? fun
      | "Idle" => some .idle
      | "Sleep" => some .sleep
      | "SleepAf" => some .sleepAf
      | "Discovery" => some .discovery
      | _ => none

instance : Documented DeactivationReason where
  toDocument
    | .hostRequest => .text "DhRequest"
    | .endpointRequest => .text "EndpointRequest"
    | .rfLinkLoss => .text "RfLinkLoss"
    | .nfcBBadAfi => .text "NfcBBadAfi"
    | .other code => carrying "Other" (toDocument code)
  ofDocument? :=
    choice?
      (fun
        | "DhRequest" => some .hostRequest
        | "EndpointRequest" => some .endpointRequest
        | "RfLinkLoss" => some .rfLinkLoss
        | "NfcBBadAfi" => some .nfcBBadAfi
        | _ => none)
      (fun
        | "Other", content => (ofDocument? content).map .other
        | _, _ => none)

/-! ### Discovery -/

instance : Documented RfProtocol where
  toDocument protocol := toDocument protocol.code
  ofDocument? document := (ofDocument? document).map RfProtocol.mk

instance : Documented RfInterface where
  toDocument interface := toDocument interface.code
  ofDocument? document := (ofDocument? document).map RfInterface.mk

instance : Documented RfTechnology where
  toDocument technology := toDocument technology.code
  ofDocument? document := (ofDocument? document).map RfTechnology.mk

instance : Documented InterfaceMode where
  toDocument
    | .poll => .text "Poll"
    | .listen => .text "Listen"
    | .pollAndListen => .text "PollAndListen"
  ofDocument? :=
    plainChoice? fun
      | "Poll" => some .poll
      | "Listen" => some .listen
      | "PollAndListen" => some .pollAndListen
      | _ => none

instance : Documented MapEntry where
  toDocument entry :=
    .object
      [ ("protocol", toDocument entry.protocol),
        ("mode", toDocument entry.mode),
        ("interface", toDocument entry.interface) ]
  ofDocument? document :=
    match document.fields? ["protocol", "mode", "interface"] with
    | some [protocol, mode, interface] => do
        let protocol ← required? protocol
        let mode ← required? mode
        let interface ← required? interface
        return { protocol, mode, interface }
    | _ => none

instance : Documented DiscoveryEntry where
  toDocument entry :=
    .object
      [ ("technology", toDocument entry.technology),
        ("frequency", toDocument entry.frequency) ]
  ofDocument? document :=
    match document.fields? ["technology", "frequency"] with
    | some [technology, frequency] => do
        let technology ← required? technology
        let frequency ← required? frequency
        return { technology, frequency }
    | _ => none

instance : Documented DiscoveryPlan where
  toDocument plan :=
    .object
      [ ("discover_maps", toDocument plan.maps),
        ("discover_configs", toDocument plan.entries) ]
  ofDocument? document :=
    match document.fields? ["discover_maps", "discover_configs"] with
    | some [maps, entries] => do
        let maps ← required? maps
        let entries ← required? entries
        return { maps, entries }
    | _ => none

/-! ### Endpoints -/

/-- The length is read as it stands, whether or not the block holds so many
bytes. -/
instance : Documented Nfcid where
  toDocument nfcid :=
    .object
      [ ("bytes", toDocument nfcid.block),
        ("len", toDocument nfcid.length) ]
  ofDocument? document :=
    match document.fields? ["bytes", "len"] with
    | some [block, length] => do
        let block ← required? block
        let length ← required? length
        return { block, length }
    | _ => none

instance : Documented PollAParameters where
  toDocument parameters :=
    .object
      [ ("sens_res", toDocument parameters.sensResponse),
        ("nfcid", toDocument parameters.nfcid),
        ("sel_res", ofOption parameters.selectResponse) ]
  ofDocument? document :=
    match document.fields? ["sens_res", "nfcid", "sel_res"] with
    | some [sensResponse, nfcid, selectResponse] => do
        let sensResponse ← required? sensResponse
        let nfcid ← required? nfcid
        let selectResponse ← optional? selectResponse
        return { sensResponse, nfcid, selectResponse }
    | _ => none

instance : Documented TechnologyParameters where
  toDocument
    | .pollA parameters => carrying "PollA" (toDocument parameters)
    | .raw bytes => carrying "Raw" (toDocument bytes)
  ofDocument? :=
    choice? (fun _ => none) fun
      | "PollA", content => (ofDocument? content).map .pollA
      | "Raw", content => (ofDocument? content).map .raw
      | _, _ => none

instance : Documented Activation where
  toDocument activation :=
    .object
      [ ("discovery_id", toDocument activation.discoveryId),
        ("interface", toDocument activation.interface),
        ("protocol", toDocument activation.protocol),
        ("mode", toDocument activation.technology),
        ("max_payload_size", toDocument activation.maxPayloadSize),
        ("initial_credits", toDocument activation.initialCredits),
        ("tech_params", toDocument activation.parameters),
        ("exchange_mode", toDocument activation.exchangeTechnology),
        ("tx_bitrate", toDocument activation.transmitBitRate),
        ("rx_bitrate", toDocument activation.receiveBitRate),
        ("activation_params", toDocument activation.activationParameters) ]
  ofDocument? document :=
    match
      document.fields?
        [ "discovery_id", "interface", "protocol", "mode", "max_payload_size",
          "initial_credits", "tech_params", "exchange_mode", "tx_bitrate", "rx_bitrate",
          "activation_params" ]
    with
    | some
        [ discoveryId, interface, protocol, technology, maxPayloadSize, initialCredits,
          parameters, exchangeTechnology, transmitBitRate, receiveBitRate,
          activationParameters ] => do
        let discoveryId ← required? discoveryId
        let interface ← required? interface
        let protocol ← required? protocol
        let technology ← required? technology
        let maxPayloadSize ← required? maxPayloadSize
        let initialCredits ← required? initialCredits
        let parameters ← required? parameters
        let exchangeTechnology ← required? exchangeTechnology
        let transmitBitRate ← required? transmitBitRate
        let receiveBitRate ← required? receiveBitRate
        let activationParameters ← required? activationParameters
        return {
          discoveryId, interface, protocol, technology, maxPayloadSize, initialCredits,
          parameters, exchangeTechnology, transmitBitRate, receiveBitRate,
          activationParameters }
    | _ => none

/-! ### Reports -/

instance : Documented Deactivation where
  toDocument deactivation :=
    .object
      [ ("deactivate_type", toDocument deactivation.typeCode),
        ("reason", toDocument deactivation.reason) ]
  ofDocument? document :=
    match document.fields? ["deactivate_type", "reason"] with
    | some [typeCode, reason] => do
        let typeCode ← required? typeCode
        let reason ← required? reason
        return { typeCode, reason }
    | _ => none

instance : Documented ResetReport where
  toDocument report :=
    .object
      [ ("version", toDocument report.version),
        ("config_status", toDocument report.configStatus) ]
  ofDocument? document :=
    match document.fields? ["version", "config_status"] with
    | some [version, configStatus] => do
        let version ← required? version
        let configStatus ← required? configStatus
        return { version, configStatus }
    | _ => none

instance : Documented Capabilities where
  toDocument capabilities :=
    .object
      [ ("features", toDocument capabilities.features),
        ("interfaces", toDocument capabilities.interfaces),
        ("max_logical_connections", toDocument capabilities.maxLogicalConnections),
        ("max_routing_table_size", toDocument capabilities.maxRoutingTableSize),
        ("max_control_payload", toDocument capabilities.maxControlPayload),
        ("max_large_params", toDocument capabilities.maxLargeParameters),
        ("manufacturer_id", toDocument capabilities.manufacturerId),
        ("manufacturer_info", toDocument capabilities.manufacturerInfo) ]
  ofDocument? document :=
    match
      document.fields?
        [ "features", "interfaces", "max_logical_connections", "max_routing_table_size",
          "max_control_payload", "max_large_params", "manufacturer_id",
          "manufacturer_info" ]
    with
    | some
        [ features, interfaces, maxLogicalConnections, maxRoutingTableSize,
          maxControlPayload, maxLargeParameters, manufacturerId, manufacturerInfo ] => do
        let features ← required? features
        let interfaces ← required? interfaces
        let maxLogicalConnections ← required? maxLogicalConnections
        let maxRoutingTableSize ← required? maxRoutingTableSize
        let maxControlPayload ← required? maxControlPayload
        let maxLargeParameters ← required? maxLargeParameters
        let manufacturerId ← required? manufacturerId
        let manufacturerInfo ← required? manufacturerInfo
        return {
          features, interfaces, maxLogicalConnections, maxRoutingTableSize,
          maxControlPayload, maxLargeParameters, manufacturerId, manufacturerInfo }
    | _ => none

end NfcHost
