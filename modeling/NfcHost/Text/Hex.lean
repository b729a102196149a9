/-
Hexadecimal text.

A byte is written with two lowercase digits.  A run of bytes is written either
without any separator or with one space between neighbours.
-/

import NfcHost.Bytes

namespace NfcHost.Hex

def byte (value : UInt8) : String :=
  String.ofList [Nat.digitChar (value.toNat / 16), Nat.digitChar (value.toNat % 16)]

def code (value : UInt8) : String :=
  "0x" ++ byte value

def plain (bytes : Bytes) : String :=
  String.join (bytes.map byte)

def spaced (bytes : Bytes) : String :=
  String.intercalate " " (bytes.map byte)

end NfcHost.Hex
