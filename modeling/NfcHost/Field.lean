/-
Fields of a payload.

Each reader takes a field at a given offset and refuses a payload that ends
before the field does.  The fault names the shortest length that would have
been enough, and the length there was.
-/

import NfcHost.Fault

namespace NfcHost.Field

def atLeast (data : Bytes) (size : Nat) : Except Fault Unit :=
  if data.length < size then .error (.invalidLength size data.length) else .ok ()

def exactly (data : Bytes) (size : Nat) : Except Fault Unit :=
  if data.length = size then .ok () else .error (.invalidLength size data.length)

section

variable {data : Bytes} {size : Nat}

theorem atLeast_of_le (fits : size ≤ data.length) : atLeast data size = .ok () :=
  if_neg (Nat.not_lt.mpr fits)

theorem atLeast_of_not_le (short : ¬size ≤ data.length) :
    atLeast data size = .error (.invalidLength size data.length) :=
  if_pos (Nat.not_le.mp short)

theorem exactly_of_eq (fits : data.length = size) : exactly data size = .ok () :=
  if_pos fits

theorem exactly_of_ne (other : data.length ≠ size) :
    exactly data size = .error (.invalidLength size data.length) :=
  if_neg other

end

def byte (data : Bytes) (offset : Nat) : Except Fault UInt8 :=
  match data[offset]? with
  | some value => .ok value
  | none => .error (.invalidLength (offset + 1) data.length)

def slice (data : Bytes) (offset size : Nat) : Except Fault Bytes :=
  if data.length < offset + size then
    .error (.invalidLength (offset + size) data.length)
  else
    .ok ((data.drop offset).take size)

/-- The two bytes at an offset as a number, low byte first. -/
def word (data : Bytes) (offset : Nat) : Except Fault UInt16 :=
  match data[offset]?, data[offset + 1]? with
  | some low, some high => .ok (UInt16.ofNat (low.toNat + 256 * high.toNat))
  | _, _ => .error (.invalidLength (offset + 2) data.length)

def block (data : Bytes) (offset width : Nat) : Except Fault (Block width) :=
  (slice data offset width).map (Block.padded width)

/-- The first byte is the status `ok`; any other status is the fault it stands for. -/
def statusOk (data : Bytes) : Except Fault Unit :=
  match byte data 0 with
  | .error fault => .error fault
  | .ok code =>
      match Fault.ofStatus? (.ofCode code) with
      | none => .ok ()
      | some fault => .error fault

def acknowledged (data : Bytes) : Except Fault Unit :=
  match exactly data 1 with
  | .error fault => .error fault
  | .ok () => statusOk data

end NfcHost.Field
