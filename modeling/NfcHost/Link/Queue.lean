/-
A link kept in memory.

Bytes for the host form one stream, so a header can be queued without its
payload.  Written packets are recorded, and writes can be made to come up one
byte short or to fail.
-/

import NfcHost.Link

namespace NfcHost

structure QueueLink where
  sent : List Bytes := []
  pending : Bytes := []
  /-- How many of the next writes report one byte less than they take. -/
  shortWrites : Nat := 0
  writeFailures : Nat := 0
  resets : Nat := 0
deriving DecidableEq, Repr

namespace QueueLink

def push (bytes : Bytes) (link : QueueLink) : QueueLink :=
  { link with pending := link.pending ++ bytes }

def popSent (link : QueueLink) : Option Bytes × QueueLink :=
  (link.sent.getLast?, { link with sent := link.sent.dropLast })

def write (bytes : Bytes) (link : QueueLink) : Except Fault Nat × QueueLink :=
  match link.writeFailures with
  | failures + 1 =>
      (.error (.transport "simulated write failure"), { link with writeFailures := failures })
  | 0 =>
      let link := { link with sent := link.sent ++ [bytes] }
      match link.shortWrites with
      | shorts + 1 => (.ok (bytes.length - 1), { link with shortWrites := shorts })
      | 0 => (.ok bytes.length, link)

def read (size : Nat) (link : QueueLink) : Except Fault Delivery × QueueLink :=
  let placed := link.pending.take size
  (.ok ⟨placed.length, placed⟩, { link with pending := link.pending.drop size })

def wait (link : QueueLink) : Except Fault Unit × QueueLink :=
  if link.pending = [] then (.error .timeout, link) else (.ok (), link)

/-- A reset forgets what was written.  Queued bytes and armed faults stay. -/
def reset (link : QueueLink) : Except Fault Unit × QueueLink :=
  (.ok (), { link with sent := [], resets := link.resets + 1 })

instance : Link QueueLink where
  write := write
  read := read
  wait := wait
  reset := reset

end QueueLink

class Feed (σ : Type) where
  push : Bytes → σ → σ

instance : Feed QueueLink := ⟨QueueLink.push⟩

end NfcHost
