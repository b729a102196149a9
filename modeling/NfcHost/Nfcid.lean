/-
Identifiers of radio endpoints: at most ten bytes, kept in a block of ten with
zeros behind them.
-/

import NfcHost.Fault

namespace NfcHost

structure Nfcid where
  block : Block 10
  length : UInt8
deriving DecidableEq

namespace Nfcid

abbrev maxLength : Nat := 10

def ofBytes (bytes : Bytes) : Except Fault Nfcid :=
  if bytes.length ≤ maxLength then
    .ok ⟨.padded 10 bytes, UInt8.ofNat bytes.length⟩
  else
    .error (.malformed (.nfcidTooLong bytes.length))

/-- The bytes of an identifier, without the zeros behind them. -/
def toBytes (nfcid : Nfcid) : Bytes :=
  nfcid.block.bytes.take nfcid.length.toNat

def size (nfcid : Nfcid) : Nat :=
  nfcid.length.toNat

def isEmpty (nfcid : Nfcid) : Bool :=
  nfcid.length == 0

def text (nfcid : Nfcid) : String :=
  Hex.spaced nfcid.toBytes

end Nfcid
end NfcHost
