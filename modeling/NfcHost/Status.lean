/-
Status codes of the controller interface.

Every response carries one, and every failure of the host has one that comes
closest to it.  Codes that the interface leaves open are kept as they are.
-/

import NfcHost.Text.Hex

namespace NfcHost

inductive Status where
  | ok
  | rejected
  | messageCorrupted
  | failed
  | notInitialized
  | syntaxError
  | semanticError
  | unknownGroup
  | unknownOpcode
  | invalidParameter
  | messageSizeExceeded
  | discoveryAlreadyStarted
  | discoveryTargetActivationFailed
  | discoveryTearDown
  | rfTransmissionError
  | rfProtocolError
  | rfTimeoutError
  | nfceeInterfaceActivationFailed
  | nfceeTransmissionError
  | nfceeProtocolError
  | nfceeTimeoutError
  | bufferFull
  | other (code : UInt8)
deriving DecidableEq, Repr

namespace Status

def code : Status → UInt8
  | ok => 0x00
  | rejected => 0x01
  | messageCorrupted => 0x02
  | failed => 0x03
  | notInitialized => 0x04
  | syntaxError => 0x05
  | semanticError => 0x06
  | unknownGroup => 0x07
  | unknownOpcode => 0x08
  | invalidParameter => 0x09
  | messageSizeExceeded => 0x0A
  | discoveryAlreadyStarted => 0xA0
  | discoveryTargetActivationFailed => 0xA1
  | discoveryTearDown => 0xA2
  | rfTransmissionError => 0xB0
  | rfProtocolError => 0xB1
  | rfTimeoutError => 0xB2
  | nfceeInterfaceActivationFailed => 0xC0
  | nfceeTransmissionError => 0xC1
  | nfceeProtocolError => 0xC2
  | nfceeTimeoutError => 0xC3
  | bufferFull => 0xE0
  | other code => code

/-- The status a wire byte stands for.  Every byte is one. -/
def ofCode (code : UInt8) : Status :=
  match code with
  | 0x00 => ok
  | 0x01 => rejected
  | 0x02 => messageCorrupted
  | 0x03 => failed
  | 0x04 => notInitialized
  | 0x05 => syntaxError
  | 0x06 => semanticError
  | 0x07 => unknownGroup
  | 0x08 => unknownOpcode
  | 0x09 => invalidParameter
  | 0x0A => messageSizeExceeded
  | 0xA0 => discoveryAlreadyStarted
  | 0xA1 => discoveryTargetActivationFailed
  | 0xA2 => discoveryTearDown
  | 0xB0 => rfTransmissionError
  | 0xB1 => rfProtocolError
  | 0xB2 => rfTimeoutError
  | 0xC0 => nfceeInterfaceActivationFailed
  | 0xC1 => nfceeTransmissionError
  | 0xC2 => nfceeProtocolError
  | 0xC3 => nfceeTimeoutError
  | 0xE0 => bufferFull
  | _ => other code

def name : Status → String
  | ok => "OK"
  | rejected => "REJECTED"
  | messageCorrupted => "MESSAGE_CORRUPTED"
  | failed => "FAILED"
  | notInitialized => "NOT_INITIALIZED"
  | syntaxError => "SYNTAX_ERROR"
  | semanticError => "SEMANTIC_ERROR"
  | unknownGroup => "UNKNOWN_GID"
  | unknownOpcode => "UNKNOWN_OID"
  | invalidParameter => "INVALID_PARAM"
  | messageSizeExceeded => "MESSAGE_SIZE_EXCEEDED"
  | discoveryAlreadyStarted => "DISCOVERY_ALREADY_STARTED"
  | discoveryTargetActivationFailed => "DISCOVERY_TARGET_ACTIVATION_FAILED"
  | discoveryTearDown => "DISCOVERY_TEAR_DOWN"
  | rfTransmissionError => "RF_TRANSMISSION_ERROR"
  | rfProtocolError => "RF_PROTOCOL_ERROR"
  | rfTimeoutError => "RF_TIMEOUT_ERROR"
  | nfceeInterfaceActivationFailed => "NFCEE_INTERFACE_ACTIVATION_FAILED"
  | nfceeTransmissionError => "NFCEE_TRANSMISSION_ERROR"
  | nfceeProtocolError => "NFCEE_PROTOCOL_ERROR"
  | nfceeTimeoutError => "NFCEE_TIMEOUT_ERROR"
  | bufferFull => "BUFFER_FULL"
  | other code => "STATUS(" ++ Hex.code code ++ ")"

theorem code_ofCode (code : UInt8) : (ofCode code).code = code := by
  unfold ofCode
  split <;> rfl

end Status
end NfcHost
