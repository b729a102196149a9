/-
Reading Type-2 tags.

Memory is counted in blocks of four bytes and one READ returns four of them, so
the sixteen blocks come in four chunks of sixteen bytes.  Each reply ends in a
status byte.
-/

import NfcHost.Host

namespace NfcHost

structure Chunk where
  data : Bytes
  more : Bool
deriving DecidableEq, Repr

inductive ReadPhase where
  | idle
  | due
  | awaiting
deriving DecidableEq, Repr

structure Type2 where
  activation : Activation
  phase : ReadPhase := .idle
  cursor : UInt8 := 0
  chunk : Bytes := List.replicate 16 0
deriving DecidableEq

namespace Type2

abbrev blocksPerRead : UInt8 := 4

abbrev lastRead : UInt8 := 12

abbrev chunkSize : Nat := 16

abbrev connection : UInt8 := 0

def readCommand (tag : Type2) : Bytes :=
  [0x30, tag.cursor]

def isDumping (tag : Type2) : Bool :=
  tag.phase != .idle

/-- Rewinds to the first block, unless a dump is under way. -/
def startDump (tag : Type2) : Except Setback Unit × Type2 :=
  match tag.phase with
  | .idle => (.ok (), { tag with cursor := 0, phase := .due })
  | _ => (.error .rejected, tag)

def checkReply (reply : Bytes) : Except Fault Unit :=
  match Field.exactly reply (chunkSize + 1) with
  | .error fault => .error fault
  | .ok () =>
      match reply.getD chunkSize 0 with
      | 0 => .ok ()
      | code => .error (.tagStatus code)

/-- Takes in a reply.  `none` when no reply was awaited.  A bad reply ends the
dump, and so does the last chunk. -/
def takeReply (tag : Type2) (reply : Bytes) :
    Option (Except Setback Chunk) × Type2 × List Line :=
  match tag.phase with
  | .awaiting =>
      match checkReply reply with
      | .error fault =>
          ( some (.error fault.setback),
            { tag with phase := .idle },
            [ .error ("T2T: READ reply for block " ++ toString tag.cursor.toNat ++ ": " ++
                fault.message) ] )
      | .ok () =>
          let data := reply.take chunkSize
          if tag.cursor < lastRead then
            ( some (.ok ⟨data, true⟩),
              { tag with chunk := data, cursor := tag.cursor + blocksPerRead, phase := .due },
              [] )
          else
            (some (.ok ⟨data, false⟩), { tag with chunk := data, phase := .idle }, [])
  | _ => (none, tag, [])

/-- Sends the READ that is due.  While a reply is awaited there is nothing to do,
and without a dump the request is refused. -/
def request {σ : Type} [Link σ] (tag : Type2) (host : Host σ) :
    Except Setback Unit × Type2 × Host σ :=
  match tag.phase with
  | .due =>
      if tag.cursor > lastRead then
        (.error .rejected, tag, host)
      else
        let block := toString tag.cursor.toNat
        let host := host.note (.debug ("T2T: READ block " ++ block))
        match host.sendData connection tag.readCommand with
        | (.error fault, host) =>
            ( .error fault.setback,
              tag,
              host.note
                (.error ("T2T: READ block " ++ block ++ " failed: " ++ fault.message)) )
        | (.ok (), host) => (.ok (), { tag with phase := .awaiting }, host)
  | .awaiting => (.ok (), tag, host)
  | .idle => (.error .rejected, tag, host)

end Type2
end NfcHost
