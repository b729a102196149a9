/-
Looking for endpoints: which protocols are routed where, and which technologies
are polled how often.
-/

import NfcHost.Rf

namespace NfcHost

inductive InterfaceMode where
  | poll
  | listen
  | pollAndListen
deriving DecidableEq, Repr

def InterfaceMode.code : InterfaceMode → UInt8
  | poll => 0x01
  | listen => 0x02
  | pollAndListen => 0x03

structure MapEntry where
  protocol : RfProtocol
  mode : InterfaceMode
  interface : RfInterface
deriving DecidableEq, Repr

def MapEntry.encode (entry : MapEntry) : Bytes :=
  [entry.protocol.code, entry.mode.code, entry.interface.code]

/-- Looks for a technology once in every `frequency` discovery cycles. -/
structure DiscoveryEntry where
  technology : RfTechnology
  frequency : UInt8
deriving DecidableEq, Repr

def DiscoveryEntry.encode (entry : DiscoveryEntry) : Bytes :=
  [entry.technology.code, entry.frequency]

structure DiscoveryPlan where
  maps : List MapEntry
  entries : List DiscoveryEntry
deriving DecidableEq, Repr

/-- Tag types 1 to 3 over the frame interface, polled with technologies A and F
on every cycle. -/
def DiscoveryPlan.standard : DiscoveryPlan :=
  { maps :=
      [ ⟨.type1, .poll, .frame⟩,
        ⟨.type2, .poll, .frame⟩,
        ⟨.type3, .poll, .frame⟩ ]
    entries := [⟨.pollA, 1⟩, ⟨.pollF, 1⟩] }

end NfcHost
