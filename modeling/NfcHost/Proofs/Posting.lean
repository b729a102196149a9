/-
What a host and a tag write, and when.

A packet is posted only where it is permitted and only if it can be encoded;
then it is written exactly once, and the outcome is what the link made of it.
Taking in a packet writes nothing.
-/

import NfcHost.Proofs.Arrival
import NfcHost.Proofs.Reception
import NfcHost.Tag

namespace NfcHost

/-- What may come of posting a packet: its outcome, and what was written. -/
inductive Posts (permitted : Prop) (encoded : Except Fault Bytes) :
    Except Fault Unit → List Transmission → Prop
  | refused (barred : ¬permitted) : Posts permitted encoded (.error .rejected) []
  | unfit {fault : Fault} (granted : permitted) (failed : encoded = .error fault) :
      Posts permitted encoded (.error fault) []
  | written {transmission : Transmission} {outcome : Except Fault Unit} (granted : permitted)
      (fits : encoded = .ok transmission.bytes) (came : outcome = transmission.outcome) :
      Posts permitted encoded outcome [transmission]

namespace Posts

variable {permitted : Prop} {encoded : Except Fault Bytes} {sent : List Transmission}

theorem of_ok (posted : Posts permitted encoded (.ok ()) sent) :
    permitted ∧ ∃ transmission, encoded = .ok transmission.bytes ∧ transmission.Whole ∧
      sent = [transmission] := by
  cases posted with
  | written granted fits came =>
      exact ⟨granted, _, fits, (Transmission.outcome_ok_iff _).mp came.symm, rfl⟩

theorem not_whole_of_error {fault : Fault} (posted : Posts permitted encoded (.error fault) sent)
    {transmission : Transmission} (member : transmission ∈ sent) : ¬transmission.Whole := by
  cases posted with
  | refused barred => cases member
  | unfit granted failed => cases member
  | written granted fits came =>
      rw [List.mem_singleton.mp member]
      intro whole
      rw [(Transmission.outcome_ok_iff _).mpr whole] at came
      cases came

theorem bytes_of_mem {outcome : Except Fault Unit} (posted : Posts permitted encoded outcome sent)
    {transmission : Transmission} (member : transmission ∈ sent) :
    permitted ∧ encoded = .ok transmission.bytes := by
  cases posted with
  | refused barred => cases member
  | unfit granted failed => cases member
  | written granted fits came =>
      rw [List.mem_singleton.mp member]
      exact ⟨granted, fits⟩

theorem wholeFrames_of_error {fault : Fault} (posted : Posts permitted encoded (.error fault) sent) :
    wholeFrames sent = [] := by
  apply List.filterMap_eq_nil_iff.mpr
  intro transmission member
  cases taken : transmission.frame? with
  | none => rfl
  | some frame =>
      have whole := ((transmission.frame?_eq_some_iff frame).mp taken).1
      exact absurd whole (posted.not_whole_of_error member)

theorem wholeFrames_of_ok (posted : Posts permitted encoded (.ok ()) sent) :
    ∃ frame, encoded = .ok frame ∧ wholeFrames sent = [frame] := by
  obtain ⟨_, transmission, fits, whole, rfl⟩ := posted.of_ok
  refine ⟨transmission.bytes, fits, ?_⟩
  have taken := (transmission.frame?_eq_some_iff transmission.bytes).mpr ⟨whole, rfl⟩
  rw [wholeFrames, List.filterMap_cons_some taken, List.filterMap_nil]

end Posts

/-! ### Hosts -/

namespace Host

variable {σ : Type}

def link (host : Host σ) : σ :=
  host.channel.link

@[simp] theorem link_note (host : Host σ) (line : Line) : (host.note line).link = host.link :=
  rfl

@[simp] theorem controller_note (host : Host σ) (line : Line) :
    (host.note line).controller = host.controller :=
  rfl

variable [Link σ]

theorem transmit_of_write {host : Host σ} {bytes : Bytes} {after : σ}
    (taken : Link.write bytes host.link = (.ok bytes.length, after)) (line : Line) :
    (host.transmit line bytes).1 = .ok () ∧ (host.transmit line bytes).2.link = after := by
  obtain ⟨report, path, came⟩ := (host.channel.note line).send_path bytes
  cases path with
  | cons written ended =>
      cases ended
      have answered : Link.write bytes host.link = (report, _) := written
      rw [taken] at answered
      obtain ⟨rfl, same⟩ := Prod.mk.inj answered
      exact ⟨came.trans ((Transmission.outcome_ok_iff _).mpr rfl), same.symm⟩

private theorem transmit_posts (host : Host σ) (line : Line) (bytes : Bytes) (permitted : Prop)
    (granted : permitted) {encoded : Except Fault Bytes} (fits : encoded = .ok bytes) :
    ∃ path, Path host.link path (host.transmit line bytes).2.link ∧
      Posts permitted encoded (host.transmit line bytes).1 (transmissions path) := by
  obtain ⟨report, path, came⟩ := (host.channel.note line).send_path bytes
  exact ⟨[.write bytes report], path, .written granted fits came⟩

theorem command_posts (host : Host σ) (command : Command) :
    ∃ path, Path host.link path (host.command command).2.link ∧
      Posts (host.controller.phase = command.phase) command.encode
        (host.command command).1 (transmissions path) := by
  unfold Host.command
  split
  · rename_i granted
    split
    · rename_i fault failed
      exact ⟨[], .nil _, .unfit granted failed⟩
    · rename_i bytes fits
      exact transmit_posts host _ bytes _ granted fits
  · rename_i barred
    exact ⟨[], .nil _, .refused barred⟩

theorem sendData_posts (host : Host σ) (connection : UInt8) (data : Bytes) :
    ∃ path, Path host.link path (host.sendData connection data).2.link ∧
      Posts (host.controller.phase = .pollActive) ((Packet.data connection data).map Packet.encode)
        (host.sendData connection data).1 (transmissions path) := by
  unfold Host.sendData
  split
  · rename_i granted
    split
    · rename_i fault failed
      exact ⟨[], .nil _, .unfit granted (by rw [failed]; rfl)⟩
    · rename_i packet fits
      exact transmit_posts host _ packet.encode _ granted (by rw [fits]; rfl)
  · rename_i barred
    exact ⟨[], .nil _, .refused barred⟩

theorem hardReset_silent (host : Host σ) : SilentPath host.link host.hardReset.2.link := by
  have resetting :=
    (host.note (.debug ("NCI: hard reset from " ++ host.controller.phase.name))).channel.reset_silent
  unfold hardReset
  dsimp only
  split
  · rename_i fault channel answered
    rw [answered] at resetting
    exact resetting
  · rename_i channel answered
    rw [answered] at resetting
    exact resetting

/-- A hardware reset that fails leaves the controller as it was; one that succeeds
leaves nothing of it. -/
theorem hardReset_controller (host : Host σ) :
    (∃ fault, host.hardReset.1 = .error fault ∧
      host.hardReset.2.controller = host.controller) ∨
    (host.hardReset.1 = .ok () ∧ host.hardReset.2.controller = {}) := by
  unfold hardReset
  dsimp only
  split
  · exact .inl ⟨_, rfl, rfl⟩
  · exact .inr ⟨rfl, rfl⟩

def packet? (host : Host σ) : Option (Message × Bytes) :=
  match host.channel.receive.1 with
  | .error _ => none
  | .ok (header, payload) => (messageOf header).toOption.map fun message => (message, payload)

theorem process_of_wait_error {host : Host σ} {fault : Fault} {after : σ}
    (failed : Link.wait host.link = (.error fault, after)) :
    host.packet? = none ∧ host.process.1 = .error fault ∧
      host.process.2.controller = host.controller ∧ host.process.2.link = after := by
  have waiting : host.channel.wait = (.error fault, { host.channel with link := after }) := by
    unfold Channel.wait
    rw [show Link.wait host.channel.link = _ from failed]
  unfold packet? process Channel.receive
  rw [waiting]
  exact ⟨rfl, rfl, rfl, rfl⟩

theorem process_silent (host : Host σ) : SilentPath host.link host.process.2.link := by
  have receiving := host.channel.receive_silent
  unfold Host.process
  split
  · rename_i fault channel answered
    rw [answered] at receiving
    exact receiving
  · rename_i header payload channel answered
    rw [answered] at receiving
    split <;> exact receiving

theorem process_of_packet?_none (host : Host σ) (absent : host.packet? = none) :
    ∃ fault, host.process.1 = .error fault ∧ host.process.2.controller = host.controller := by
  unfold packet? at absent
  unfold Host.process
  split
  · exact ⟨_, rfl, rfl⟩
  · rename_i header payload channel answered
    rw [answered] at absent
    dsimp only at absent
    split
    · exact ⟨_, rfl, rfl⟩
    · rename_i message known
      rw [known] at absent
      cases absent

theorem process_of_packet?_some (host : Host σ) {message : Message} {payload : Bytes}
    (present : host.packet? = some (message, payload)) :
    host.process.1 = .ok (host.controller.receive message payload).event ∧
      host.process.2.controller = (host.controller.receive message payload).controller := by
  unfold packet? at present
  unfold Host.process
  split
  · rename_i fault channel answered
    rw [answered] at present
    cases present
  · rename_i header content channel answered
    rw [answered] at present
    dsimp only at present
    split
    · rename_i fault unknown
      rw [unknown] at present
      cases present
    · rename_i other known
      rw [known] at present
      cases present
      exact ⟨rfl, rfl⟩

end Host

/-! ### Type-2 tags -/

namespace Type2

theorem startDump_of_idle (tag : Type2) (idle : tag.phase = .idle) :
    tag.startDump = (.ok (), { tag with cursor := 0, phase := .due }) := by
  rw [startDump, idle]

theorem startDump_of_busy (tag : Type2) (busy : tag.phase ≠ .idle) :
    tag.startDump = (.error .rejected, tag) := by
  unfold startDump
  cases progress : tag.phase with
  | idle => exact absurd progress busy
  | due => rfl
  | awaiting => rfl

def readFrame (block : UInt8) : Bytes :=
  [0x00, 0x00, 0x02, 0x30, block]

theorem encode_readCommand (tag : Type2) :
    (Packet.data connection tag.readCommand).map Packet.encode = .ok (readFrame tag.cursor) := by
  have fits : Packet.payloadLength tag.readCommand = .ok 2 := rfl
  have head : (Header.data connection 2).encode = [0x00, 0x00, 0x02] := rfl
  unfold Packet.data
  rw [if_pos (by decide), fits]
  change Except.ok ((Header.data connection 2).encode ++ tag.readCommand) = _
  rw [head]
  rfl

/-- What may come of asking a tag for its next request. -/
inductive Requests (tag : Type2) (controller : Controller) :
    Except Setback Unit → Type2 → List Transmission → Prop
  | sent {sent : List Transmission} (due : tag.phase = .due)
      (inside : tag.cursor ≤ lastRead)
      (posted : Posts (controller.phase = .pollActive) (.ok (readFrame tag.cursor)) (.ok ()) sent) :
      Requests tag controller (.ok ()) { tag with phase := .awaiting } sent
  | unsent {fault : Fault} {sent : List Transmission} (due : tag.phase = .due)
      (inside : tag.cursor ≤ lastRead)
      (posted : Posts (controller.phase = .pollActive) (.ok (readFrame tag.cursor))
        (.error fault) sent) :
      Requests tag controller (.error fault.setback) tag sent
  | already (awaiting : tag.phase = .awaiting) : Requests tag controller (.ok ()) tag []
  | refused (idle : tag.phase = .idle ∨ lastRead < tag.cursor) :
      Requests tag controller (.error .rejected) tag []

variable {σ : Type} [Link σ]

theorem request_requests (tag : Type2) (host : Host σ) :
    ∃ path, Path host.link path (tag.request host).2.2.link ∧
      (tag.request host).2.2.controller = host.controller ∧
      Requests tag host.controller (tag.request host).1 (tag.request host).2.1
        (transmissions path) := by
  unfold request
  split
  · rename_i due
    split
    · rename_i beyond
      exact ⟨[], .nil _, rfl, .refused (.inr beyond)⟩
    · rename_i inside
      rw [gt_iff_lt, UInt8.not_lt] at inside
      dsimp only
      generalize noted : host.note _ = told
      have sameLink : told.link = host.link := by rw [← noted]; rfl
      have sameController : told.controller = host.controller := by rw [← noted]; rfl
      obtain ⟨path, taken, posted⟩ := told.sendData_posts connection tag.readCommand
      have kept := told.controller_sendData connection tag.readCommand
      rw [encode_readCommand, sameController] at posted
      rw [sameLink] at taken
      rw [sameController] at kept
      split
      · rename_i fault after answered
        rw [answered] at taken posted kept
        exact ⟨path, taken, kept, .unsent due inside posted⟩
      · rename_i after answered
        rw [answered] at taken posted kept
        exact ⟨path, taken, kept, .sent due inside posted⟩
  · rename_i awaiting
    exact ⟨[], .nil _, rfl, .already awaiting⟩
  · rename_i idle
    exact ⟨[], .nil _, rfl, .refused (.inl idle)⟩

end Type2

/-! ### Commands -/

theorem Command.head_encode {command : Command} {frame : Bytes}
    (fits : command.encode = .ok frame) :
    frame.head? = some 0x20 ∨ frame.head? = some 0x21 := by
  unfold encode toPacket at fits
  split at fits
  · cases fits
  · unfold Packet.control at fits
    split at fits
    · cases fits
    · cases fits
      change some (((1 : UInt8) <<< 5) ||| ((command.group &&& 0x0F) &&& 0x0F) ||| 0x00) = _ ∨
        some (((1 : UInt8) <<< 5) ||| ((command.group &&& 0x0F) &&& 0x0F) ||| 0x00) = _
      have group : command.group = Group.core ∨ command.group = Group.rf := by
        cases command <;> first | exact .inl rfl | exact .inr rfl
      rcases group with core | rf
      · left
        rw [core]
        decide
      · right
        rw [rf]
        decide

theorem Command.encode_ne_readFrame (command : Command) (block : UInt8) :
    command.encode ≠ .ok (Type2.readFrame block) := by
  intro fits
  rcases head_encode fits with core | rf
  · cases core
  · cases rf

end NfcHost
