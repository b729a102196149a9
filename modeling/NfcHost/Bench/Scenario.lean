/-
Sessions taken to a certain point, with the controller played from a queue.

Each scenario queues the replies it needs just before they are needed, and stops
at the first operation that does not succeed.
-/

import NfcHost.Bench.Packets
import NfcHost.Link.Queue
import NfcHost.Session

namespace NfcHost.Session

variable {σ : Type} [Link σ] [Feed σ]

def feed (packets : List Bytes) (session : Session σ) : Session σ :=
  let channel := session.host.channel
  let link := packets.foldl (fun link packet => Feed.push packet link) channel.link
  { session with host := { session.host with channel := { channel with link := link } } }

def processMany (count : Nat) (session : Session σ) :
    Except Setback Unit × List Notice × Session σ :=
  match count with
  | 0 => (.ok (), [], session)
  | count + 1 =>
      match session.process with
      | (.error setback, notices, session) => (.error setback, notices, session)
      | (.ok (), notices, session) =>
          let (outcome, later, session) := processMany count session
          (outcome, notices ++ later, session)

def bringUp (session : Session σ) : Except Setback Unit × List Notice × Session σ :=
  let session := session.feed [Bench.resetResponse .ok, Bench.initResponse .ok]
  match session.reset .keepConfig with
  | (.error setback, session) => (.error setback, [], session)
  | (.ok (), session) => session.processMany 2

def bringToActivation (nfcid : Bytes) (selectResponse : Option UInt8) (session : Session σ) :
    Except Setback Unit × List Notice × Session σ :=
  match session.bringUp with
  | (.error setback, notices, session) => (.error setback, notices, session)
  | (.ok (), notices, session) =>
      let session :=
        session.feed
          [ Bench.discoverMapResponse .ok,
            Bench.discoverResponse .ok,
            Bench.activated nfcid selectResponse ]
      match session.discover with
      | (.error setback, session) => (.error setback, notices, session)
      | (.ok (), session) =>
          let (outcome, later, session) := session.processMany 3
          (outcome, notices ++ later, session)

end NfcHost.Session
