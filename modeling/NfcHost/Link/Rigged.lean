/-
A link in memory with more ways to go wrong.

Each kind of request has its own hook: failing reads, waits and resets, waits
that end although nothing is there, reads that are cut short, and writes whose
reported count is made up.  Packets are noted as they are taken.
-/

import NfcHost.Link.Queue

namespace NfcHost

structure RiggedLink where
  queue : QueueLink := {}
  noted : List Bytes := []
  readFailures : Nat := 0
  waitFailures : Nat := 0
  resetFailures : Nat := 0
  forcedReady : Nat := 0
  readCaps : List Nat := []
  /-- The counts the next writes report; their packets never reach the queue. -/
  writeReports : List Nat := []
deriving DecidableEq, Repr

namespace RiggedLink

def push (bytes : Bytes) (link : RiggedLink) : RiggedLink :=
  { link with queue := link.queue.push bytes }

def write (bytes : Bytes) (link : RiggedLink) : Except Fault Nat × RiggedLink :=
  match link.writeReports with
  | count :: reports =>
      (.ok count, { link with writeReports := reports, noted := link.noted ++ [bytes] })
  | [] =>
      match link.queue.write bytes with
      | (.error fault, queue) => (.error fault, { link with queue := queue })
      | (.ok count, queue) =>
          (.ok count, { link with queue := queue, noted := link.noted ++ [bytes] })

def read (size : Nat) (link : RiggedLink) : Except Fault Delivery × RiggedLink :=
  match link.readFailures with
  | failures + 1 =>
      (.error (.transport "simulated read failure"), { link with readFailures := failures })
  | 0 =>
      match link.readCaps with
      | cap :: caps =>
          let (outcome, queue) := link.queue.read (min size cap)
          (outcome, { link with queue := queue, readCaps := caps })
      | [] =>
          let (outcome, queue) := link.queue.read size
          (outcome, { link with queue := queue })

def wait (link : RiggedLink) : Except Fault Unit × RiggedLink :=
  match link.waitFailures with
  | failures + 1 =>
      (.error (.transport "simulated wait failure"), { link with waitFailures := failures })
  | 0 =>
      match link.forcedReady with
      | ready + 1 => (.ok (), { link with forcedReady := ready })
      | 0 =>
          let (outcome, queue) := link.queue.wait
          (outcome, { link with queue := queue })

def reset (link : RiggedLink) : Except Fault Unit × RiggedLink :=
  match link.resetFailures with
  | failures + 1 =>
      (.error (.transport "simulated reset failure"), { link with resetFailures := failures })
  | 0 =>
      let (outcome, queue) := link.queue.reset
      (outcome, { link with queue := queue })

instance : Link RiggedLink where
  write := write
  read := read
  wait := wait
  reset := reset

instance : Feed RiggedLink := ⟨push⟩

end RiggedLink

/-- The same link without a reset line: a reset is granted and does nothing. -/
structure Resetless (σ : Type) where
  inner : σ

namespace Resetless

variable {σ : Type}

instance [Link σ] : Link (Resetless σ) where
  write bytes link :=
    let (outcome, inner) := Link.write bytes link.inner
    (outcome, ⟨inner⟩)
  read size link :=
    let (outcome, inner) := Link.read size link.inner
    (outcome, ⟨inner⟩)
  wait link :=
    let (outcome, inner) := Link.wait link.inner
    (outcome, ⟨inner⟩)

instance [Feed σ] : Feed (Resetless σ) where
  push bytes link := ⟨Feed.push bytes link.inner⟩

end Resetless
end NfcHost
