/-
Links to a controller.

A link is whatever carries packets between host and controller.  The host asks
four things of it, each of which may fail in any way and may change the link.
A `Channel` is a link together with the journal of the one who uses it.
-/

import NfcHost.Fault
import NfcHost.Journal
import NfcHost.Packet

namespace NfcHost

/-- What a read put into its buffer, and how many bytes it reports to have read. -/
structure Delivery where
  count : Nat
  placed : Bytes
deriving DecidableEq, Repr

class Link (σ : Type) where
  write : Bytes → σ → Except Fault Nat × σ
  /-- Reads into a buffer of the given size.  A count of zero means that nothing
  was there. -/
  read : Nat → σ → Except Fault Delivery × σ
  wait : σ → Except Fault Unit × σ
  reset : σ → Except Fault Unit × σ := fun link => (.ok (), link)
  resetLines : σ → List Line := fun _ => []

structure Channel (σ : Type) where
  link : σ
  journal : Journal

namespace Channel

variable {σ : Type}

def note (channel : Channel σ) (line : Line) : Channel σ :=
  { channel with journal := channel.journal.note line }

def noteAll (channel : Channel σ) (lines : List Line) : Channel σ :=
  { channel with journal := channel.journal.noteAll lines }

/-- Shows what was received.  It is put together only for a journal that keeps it. -/
def noteReceived (head payload : Bytes) (channel : Channel σ) : Channel σ :=
  if channel.journal.threshold.enables .trace then
    channel.note (.dump .trace "NCI_RX: " (head ++ payload))
  else
    channel

@[simp] theorem link_note (channel : Channel σ) (line : Line) :
    (channel.note line).link = channel.link :=
  rfl

@[simp] theorem link_noteAll (channel : Channel σ) (lines : List Line) :
    (channel.noteAll lines).link = channel.link :=
  rfl

theorem noteReceived_eq (head payload : Bytes) (channel : Channel σ) :
    channel.noteReceived head payload =
      channel.note (.dump .trace "NCI_RX: " (head ++ payload)) := by
  unfold noteReceived
  by_cases enabled : channel.journal.threshold.enables .trace
  · rw [if_pos enabled]
  · have unkept : ¬channel.journal.threshold.keeps
        (.dump .trace "NCI_RX: " (head ++ payload)) := enabled
    rw [if_neg enabled, note, Journal.note, if_neg unkept]

variable [Link σ]

def write (bytes : Bytes) (channel : Channel σ) : Except Fault Nat × Channel σ :=
  let (outcome, link) := Link.write bytes channel.link
  (outcome, { channel with link := link })

def read (size : Nat) (channel : Channel σ) : Except Fault Delivery × Channel σ :=
  let (outcome, link) := Link.read size channel.link
  (outcome, { channel with link := link })

def wait (channel : Channel σ) : Except Fault Unit × Channel σ :=
  let (outcome, link) := Link.wait channel.link
  (outcome, { channel with link := link })

def reset (channel : Channel σ) : Except Fault Unit × Channel σ :=
  let channel := channel.noteAll (Link.resetLines channel.link)
  let (outcome, link) := Link.reset channel.link
  (outcome, { channel with link := link })

def send (bytes : Bytes) (channel : Channel σ) : Except Fault Unit × Channel σ :=
  match (channel.note (.dump .trace "NCI_TX: " bytes)).write bytes with
  | (.error fault, channel) => (.error fault, channel)
  | (.ok count, channel) =>
      if count = bytes.length then
        (.ok (), channel)
      else
        (.error (.shortWrite bytes.length count), channel)

def readExactly (size : Nat) (missing : Fault) (channel : Channel σ) :
    Except Fault Bytes × Channel σ :=
  match channel.read size with
  | (.error fault, channel) => (.error fault, channel)
  | (.ok delivery, channel) =>
      if delivery.count = 0 then
        (.error missing, channel)
      else if delivery.count = size then
        (.ok (overwrite (List.replicate size 0) delivery.placed), channel)
      else
        (.error (.invalidLength size delivery.count), channel)

def readPayload (size : Nat) (channel : Channel σ) : Except Fault Bytes × Channel σ :=
  if size = 0 then (.ok [], channel) else channel.readExactly size .noPayload

/-- Waits for one packet and reads it.  The payload is taken off the link before
the header is looked at, so that a bad packet leaves the next one in place. -/
def receive (channel : Channel σ) : Except Fault (Header × Bytes) × Channel σ :=
  match channel.wait with
  | (.error fault, channel) => (.error fault, channel)
  | (.ok (), channel) =>
      match channel.readExactly Header.size .noHeader with
      | (.error fault, channel) => (.error fault, channel)
      | (.ok head, channel) =>
          match channel.readPayload (head.getD 2 0).toNat with
          | (.error fault, channel) => (.error fault, channel)
          | (.ok payload, channel) =>
              let channel := channel.noteReceived head payload
              match Header.decode head with
              | .error fault => (.error fault, channel)
              | .ok header => (.ok (header, payload), channel)

end Channel
end NfcHost
