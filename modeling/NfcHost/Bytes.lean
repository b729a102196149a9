/-
Byte strings.

Packets, payloads and tag memory are lists of bytes, because lists are what a
proof can take apart.  A field whose width never changes is a `Block`.
-/

namespace NfcHost

abbrev Bytes := List UInt8

structure Block (width : Nat) where
  bytes : Bytes
  bytes_length : bytes.length = width
deriving DecidableEq

namespace Block

def ofBytes? (width : Nat) (bytes : Bytes) : Option (Block width) :=
  if fits : bytes.length = width then some ⟨bytes, fits⟩ else none

def padded (width : Nat) (bytes : Bytes) : Block width :=
  ⟨(bytes ++ List.replicate width 0).take width, by simp⟩

end Block

/-- What a buffer holds once `placed` has been written over its beginning.
Bytes that do not fit are lost, and the rest of the buffer keeps its content. -/
def overwrite (buffer placed : Bytes) : Bytes :=
  placed.take buffer.length ++ buffer.drop placed.length

end NfcHost
