/-
What a controller can do, as it reports when it is brought up.

Only the minimal length and the status decide whether the report is accepted.
Controllers disagree on the shape of the details, so details that do not fit
together are left aside with the fault that was found in them.
-/

import NfcHost.Field
import NfcHost.Rf

namespace NfcHost

structure Capabilities where
  features : Block 4
  interfaces : List RfInterface
  maxLogicalConnections : UInt8
  maxRoutingTableSize : UInt16
  maxControlPayload : UInt8
  maxLargeParameters : UInt16
  manufacturerId : UInt8
  manufacturerInfo : Block 4
deriving DecidableEq

namespace Capabilities

abbrev minPayload : Nat := 17

/-- The details behind the status byte: features (4), number of interfaces,
interfaces, logical connections, routing table size (2), control payload, large
parameters (2), manufacturer, manufacturer information (4). -/
def details (payload : Bytes) : Except Fault Capabilities := do
  let features ← Field.block payload 1 4
  let count ← Field.byte payload 5
  let interfaces ← Field.slice payload 6 count.toNat
  let tail := 6 + count.toNat
  let maxLogicalConnections ← Field.byte payload tail
  let maxRoutingTableSize ← Field.word payload (tail + 1)
  let maxControlPayload ← Field.byte payload (tail + 3)
  let maxLargeParameters ← Field.word payload (tail + 4)
  let manufacturerId ← Field.byte payload (tail + 6)
  let manufacturerInfo ← Field.block payload (tail + 7) 4
  return {
    features := features
    interfaces := interfaces.map RfInterface.mk
    maxLogicalConnections := maxLogicalConnections
    maxRoutingTableSize := maxRoutingTableSize
    maxControlPayload := maxControlPayload
    maxLargeParameters := maxLargeParameters
    manufacturerId := manufacturerId
    manufacturerInfo := manufacturerInfo }

/-- An accepted report holds the capabilities, or the fault in its details. -/
def ofPayload (payload : Bytes) : Except Fault (Except Fault Capabilities) :=
  match Field.atLeast payload minPayload with
  | .error fault => .error fault
  | .ok () =>
      match Field.statusOk payload with
      | .error fault => .error fault
      | .ok () => .ok (details payload)

end Capabilities
end NfcHost
