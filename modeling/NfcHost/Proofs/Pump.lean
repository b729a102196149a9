/-
The packet pump.

Packets stand on a link as one stream of bytes.  Whatever a packet holds, the host
takes exactly its bytes off the stream, and makes of them what the decoder makes of
the whole packet.  So the host stays in step with the stream, whatever it is told to
do between two packets.
-/

import NfcHost.Link.Queue
import NfcHost.Proofs.Posting

namespace NfcHost

/-- The byte string holds one packet and nothing more. -/
def Complete (bytes : Bytes) : Prop :=
  Header.size ≤ bytes.length ∧ announced bytes = bytes.length - Header.size

instance (bytes : Bytes) : Decidable (Complete bytes) :=
  inferInstanceAs (Decidable (_ ∧ _))

theorem Complete.parts {bytes : Bytes} (complete : Complete bytes) :
    ∃ first second last payload, bytes = first :: second :: last :: payload ∧
      payload.length = last.toNat := by
  obtain ⟨headed, filled⟩ := complete
  match bytes, headed with
  | first :: second :: last :: payload, _ =>
      refine ⟨first, second, last, payload, rfl, ?_⟩
      have size : (first :: second :: last :: payload).length - Header.size = payload.length := by
        simp only [List.length_cons, Header.size]
        omega
      rw [← size, ← filled]
      rfl

def Packet.contents (bytes : Bytes) : Except Fault (Message × Bytes) :=
  match decode bytes with
  | .error fault => .error fault
  | .ok packet => packet.header.message.map fun message => (message, packet.payload)

/-- The two readers of a packet agree: one checks its length and its segmentation bit
before its message, the other has cut the payload to size already. -/
theorem Packet.contents_eq {bytes : Bytes} (complete : Complete bytes) :
    contents bytes =
      match Header.decode bytes with
      | .error fault => .error fault
      | .ok header =>
          (Host.messageOf header).map fun message => (message, bytes.drop Header.size) := by
  obtain ⟨first, second, last, payload, rfl, size⟩ := complete.parts
  unfold contents decode Header.decode
  dsimp only
  cases MessageType.ofBits (first >>> 5) with
  | error fault => rfl
  | ok messageType =>
      dsimp only
      have whole : ¬(first :: second :: last :: payload).length ≠ Header.size + last.toNat := by
        simp only [List.length_cons, Header.size]
        omega
      rw [if_neg whole]
      unfold Host.messageOf
      dsimp only
      cases first &&& 0x10 != 0 with
      | true => rfl
      | false => rfl

theorem overwrite_replicate {size : Nat} {placed : Bytes} (fits : placed.length = size) :
    overwrite (List.replicate size 0) placed = placed := by
  unfold overwrite
  rw [List.length_replicate, List.take_of_length_le (Nat.le_of_eq fits),
    List.drop_of_length_le (Nat.le_of_eq (List.length_replicate.trans fits.symm)),
    List.append_nil]

def handover (bytes : Bytes) : List Exchange :=
  [.wait (.ok ()), .read Header.size (.ok ⟨Header.size, bytes.take Header.size⟩)] ++
    if announced bytes = 0 then []
    else [.read (announced bytes) (.ok ⟨announced bytes, bytes.drop Header.size⟩)]

namespace Channel

variable {σ : Type} [Link σ]

theorem readExactly_of_full {size : Nat} {missing : Fault} {channel : Channel σ} {placed : Bytes}
    {after : σ} (answered : Link.read size channel.link = (.ok ⟨size, placed⟩, after))
    (some : size ≠ 0) (fits : placed.length = size) :
    channel.readExactly size missing = (.ok placed, { channel with link := after }) := by
  unfold readExactly read
  rw [answered]
  dsimp only
  rw [if_neg some, if_pos rfl, overwrite_replicate fits]

theorem receive_of_handover {channel : Channel σ} {bytes : Bytes} {after : σ}
    (complete : Complete bytes) (taken : Path channel.link (handover bytes) after) :
    channel.receive.2.link = after ∧
      channel.receive.1 =
        (Header.decode bytes).map fun header => (header, bytes.drop Header.size) := by
  obtain ⟨first, second, last, payload, rfl, size⟩ := complete.parts
  cases taken with
  | @cons _ ready _ _ _ waited tail =>
  cases tail with
  | @cons _ headed _ _ _ answered tail =>
  have waiting : channel.wait = (.ok (), { channel with link := ready }) := by
    unfold wait
    rw [show Link.wait channel.link = (.ok (), ready) from waited]
  have heading : ({ channel with link := ready } : Channel σ).readExactly Header.size .noHeader =
      (.ok [first, second, last], { channel with link := headed }) :=
    readExactly_of_full answered (by decide) rfl
  have decoded : Header.decode (first :: second :: last :: payload) =
      Header.decode [first, second, last] := rfl
  have announcement : ([first, second, last] : Bytes).getD 2 0 = last := rfl
  have body : ({ channel with link := headed } : Channel σ).readPayload last.toNat =
      (.ok payload, { channel with link := after }) := by
    have tail : Path headed (if last.toNat = 0 then [] else
        [.read last.toNat (.ok ⟨last.toNat, payload⟩)]) after := tail
    unfold readPayload
    -- A payload of no bytes is not asked for.
    by_cases empty : last.toNat = 0
    · rw [if_pos empty] at tail ⊢
      rw [empty, List.length_eq_zero_iff] at size
      rw [size]
      cases tail
      rfl
    · rw [if_neg empty] at tail ⊢
      cases tail with
      | cons filled ended =>
          cases ended
          exact readExactly_of_full filled empty size
  unfold receive
  rw [waiting, decoded]
  dsimp only
  rw [heading]
  dsimp only
  rw [announcement, body]
  dsimp only
  rw [noteReceived_eq]
  cases Header.decode [first, second, last] with
  | error fault => exact ⟨rfl, rfl⟩
  | ok header => exact ⟨rfl, rfl⟩

end Channel

/-- The host takes one packet off its link, whatever the packet holds, and makes of it
what the decoder makes of the whole packet. -/
structure Host.Pumps {σ : Type} [Link σ] (host : Host σ) (bytes : Bytes) (after : σ) : Prop where
  consumed : host.process.2.link = after
  failed : ∀ fault, Packet.contents bytes = .error fault →
    host.process.1 = .error fault ∧ host.process.2.controller = host.controller
  heard : ∀ message payload, Packet.contents bytes = .ok (message, payload) →
    host.process.1 = .ok (host.controller.receive message payload).event ∧
      (host.controller.receive message payload).event.message = message ∧
      host.process.2.controller = (host.controller.receive message payload).controller

theorem Host.pumps_of_handover {σ : Type} [Link σ] {host : Host σ} {bytes : Bytes} {after : σ}
    (complete : Complete bytes) (taken : Path host.link (handover bytes) after) :
    host.Pumps bytes after := by
  obtain ⟨consumed, received⟩ := Channel.receive_of_handover complete taken
  have contents := Packet.contents_eq complete
  rcases answered : host.channel.receive with ⟨outcome, channel⟩
  rw [answered] at consumed received
  have processed : host.process.2.link = after ∧ match Packet.contents bytes with
      | .error fault => host.process.1 = .error fault ∧ host.process.2.controller = host.controller
      | .ok (message, payload) =>
          host.process.1 = .ok (host.controller.receive message payload).event ∧
            host.process.2.controller = (host.controller.receive message payload).controller := by
    rw [contents]
    unfold Host.process
    rw [answered]
    dsimp only at received ⊢
    rw [received]
    cases Header.decode bytes with
    | error fault => exact ⟨consumed, rfl, rfl⟩
    | ok header =>
        dsimp only [Except.map]
        cases messageOf header with
        | error fault => exact ⟨consumed, rfl, rfl⟩
        | ok message => exact ⟨(Channel.link_noteAll ..).trans consumed, rfl, rfl⟩
  obtain ⟨consumed, processed⟩ := processed
  refine ⟨consumed, fun fault failed => ?_, fun message payload known => ?_⟩
  · rw [failed] at processed
    exact processed
  · rw [known] at processed
    exact ⟨processed.1, host.controller.receive_message message payload, processed.2⟩

/-! ### Streams -/

namespace QueueLink

theorem handover_path {link : QueueLink} {bytes rest : Bytes} (complete : Complete bytes)
    (queued : link.pending = bytes ++ rest) :
    Path link (handover bytes) { link with pending := rest } := by
  obtain ⟨first, second, last, payload, rfl, size⟩ := complete.parts
  have something : link.pending ≠ [] := by
    rw [queued]
    exact List.cons_ne_nil _ _
  have waited : (Exchange.wait (.ok ())).Between link link := if_neg something
  have headed : (Exchange.read Header.size (.ok ⟨Header.size, [first, second, last]⟩)).Between
      link { link with pending := payload ++ rest } := by
    change QueueLink.read Header.size link = _
    unfold QueueLink.read
    rw [queued]
    rfl
  refine .cons waited (.cons headed ?_)
  change Path _ (if last.toNat = 0 then [] else
    [.read last.toNat (.ok ⟨last.toNat, payload⟩)]) _
  by_cases empty : last.toNat = 0
  · rw [empty, List.length_eq_zero_iff] at size
    rw [if_pos empty, size]
    exact .nil _
  · rw [if_neg empty]
    apply Path.single
    change QueueLink.read last.toNat _ = _
    unfold QueueLink.read
    dsimp only
    rw [← size, List.take_left, List.drop_left]

theorem pending_write (bytes : Bytes) (link : QueueLink) :
    (write bytes link).2.pending = link.pending := by
  unfold write
  split
  · rfl
  · dsimp only
    split <;> rfl

end QueueLink

inductive Instruction where
  | hardReset
  | command (command : Command)
  | data (connection : UInt8) (payload : Bytes)

structure Round where
  instructions : List Instruction
  packet : Bytes

namespace Host

section

variable {σ : Type} [Link σ]

def obey (host : Host σ) (instruction : Instruction) : Host σ :=
  match instruction with
  | .hardReset => host.hardReset.2
  | .command command => (host.command command).2
  | .data connection payload => (host.sendData connection payload).2

def obeyAll (host : Host σ) (instructions : List Instruction) : Host σ :=
  instructions.foldl obey host

def pump (host : Host σ) (rounds : List Round) : Host σ :=
  rounds.foldl (fun host round => (host.obeyAll round.instructions).process.2) host

end

theorem pending_transmit (host : Host QueueLink) (line : Line) (bytes : Bytes) :
    (host.transmit line bytes).2.link.pending = host.link.pending := by
  obtain ⟨report, taken, _⟩ := (host.channel.note line).send_path bytes
  cases taken with
  | cons written ended =>
      cases ended
      have after := congrArg Prod.snd (show QueueLink.write bytes host.link = _ from written)
      exact (congrArg QueueLink.pending after).symm.trans (QueueLink.pending_write bytes host.link)

theorem pending_obey (host : Host QueueLink) (instruction : Instruction) :
    (host.obey instruction).link.pending = host.link.pending := by
  cases instruction with
  | hardReset => rfl
  | command command =>
      change (host.command command).2.link.pending = _
      unfold Host.command
      split
      · split
        · rfl
        · exact pending_transmit ..
      · rfl
  | data connection payload =>
      change (host.sendData connection payload).2.link.pending = _
      unfold Host.sendData
      split
      · split
        · rfl
        · exact pending_transmit ..
      · rfl

theorem pending_obeyAll (host : Host QueueLink) (instructions : List Instruction) :
    (host.obeyAll instructions).link.pending = host.link.pending := by
  induction instructions generalizing host with
  | nil => rfl
  | cons instruction rest ih => exact (ih (host.obey instruction)).trans (pending_obey ..)

theorem pumps_of_pending {host : Host QueueLink} {bytes rest : Bytes} (complete : Complete bytes)
    (queued : host.link.pending = bytes ++ rest) :
    host.Pumps bytes { host.link with pending := rest } :=
  pumps_of_handover complete (QueueLink.handover_path complete queued)

theorem process_of_nothing {host : Host QueueLink} (nothing : host.link.pending = []) :
    host.process.1 = .error .timeout ∧ host.process.2.link = host.link := by
  have waited : Link.wait host.link = (.error .timeout, host.link) := if_pos nothing
  obtain ⟨_, failed, _, kept⟩ := process_of_wait_error waited
  exact ⟨failed, kept⟩

def stream (rounds : List Round) : Bytes :=
  (rounds.map Round.packet).flatten

theorem pending_pump (past : List Round) {rest : Bytes} {host : Host QueueLink}
    (complete : ∀ round ∈ past, Complete round.packet)
    (queued : host.link.pending = stream past ++ rest) :
    (host.pump past).link.pending = rest := by
  induction past generalizing host with
  | nil => exact queued
  | cons round past ih =>
      obtain ⟨first, later⟩ := List.forall_mem_cons.mp complete
      apply ih later
      have standing : (host.obeyAll round.instructions).link.pending =
          round.packet ++ (stream past ++ rest) := by
        rw [pending_obeyAll, queued, ← List.append_assoc]
        rfl
      rw [(pumps_of_pending first standing).consumed]

/-- The host stays in step with the stream.  In every round it takes exactly the bytes of
the round's packet off the stream and makes of them what the decoder makes of the whole
packet; after the last round nothing is left, and there is no further packet. -/
theorem pump_in_step (host : Host QueueLink) (rounds : List Round)
    (complete : ∀ round ∈ rounds, Complete round.packet)
    (queued : host.link.pending = stream rounds) :
    (∀ past round future, rounds = past ++ round :: future →
      let before := (host.pump past).obeyAll round.instructions
      before.link.pending = round.packet ++ stream future ∧
        before.Pumps round.packet { before.link with pending := stream future }) ∧
    ∀ instructions,
      let after := (host.pump rounds).obeyAll instructions
      after.link.pending = [] ∧ after.process.1 = .error .timeout ∧
        after.process.2.link = after.link := by
  constructor
  · -- The past rounds have used up their part of the stream, and instructions use none.
    rintro past round future rfl
    obtain ⟨before, rest⟩ := List.forall_mem_append.mp complete
    obtain ⟨whole, _⟩ := List.forall_mem_cons.mp rest
    have split : host.link.pending = stream past ++ (round.packet ++ stream future) := by
      rw [queued, stream, List.map_append, List.flatten_append]
      rfl
    have standing : ((host.pump past).obeyAll round.instructions).link.pending =
        round.packet ++ stream future := by
      rw [pending_obeyAll, pending_pump past before split]
    exact ⟨standing, pumps_of_pending whole standing⟩
  · intro instructions
    have empty : ((host.pump rounds).obeyAll instructions).link.pending = [] := by
      rw [pending_obeyAll]
      exact pending_pump rounds complete (queued.trans (List.append_nil _).symm)
    obtain ⟨failed, kept⟩ := process_of_nothing empty
    exact ⟨empty, failed, kept⟩

def mixedRounds : List Round :=
  [ ⟨[], [0x80, 0x00, 0x00]⟩,
    ⟨[], [0x50, 0x00, 0x01, 0x07]⟩,
    ⟨[.command (.reset .keepConfig)], [0x40, 0x00, 0x03, 0x00, 0x10, 0x00]⟩ ]

/-- Neither of the two packets before it hides the reset response. -/
theorem pump_in_step_mixed :
    let host : Host QueueLink := .fresh { pending := stream mixedRounds } none
    (∀ round ∈ mixedRounds, Complete round.packet) ∧ host.link.pending = stream mixedRounds ∧
      ((host.pump (mixedRounds.take 2)).obeyAll [.command (.reset .keepConfig)]).process.1 =
        .ok (.reset (.ok ⟨0x10, .kept⟩)) ∧
      (host.pump mixedRounds).process.1 = .error .timeout := by
  have complete : ∀ round ∈ mixedRounds, Complete round.packet := by decide
  obtain ⟨rounds, ended⟩ :=
    pump_in_step (.fresh { pending := stream mixedRounds } none) mixedRounds complete rfl
  obtain ⟨_, taken⟩ := rounds (mixedRounds.take 2) _ [] rfl
  exact ⟨complete, rfl, (taken.heard .resetResponse [0x00, 0x10, 0x00] rfl).1, (ended []).2.1⟩

end Host
end NfcHost
