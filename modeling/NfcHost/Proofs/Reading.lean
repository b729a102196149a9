/-
What a call does to the reading of a tag.

While a tag is read, a READ is due for some block or is pending.  `Reading` lists
the ways in which a call can bear on that: it begins a dump, asks for the READ
that is due, takes in the reply that is pending, leaves all as it is or leaves
the dump.  `reading_of_moves` says that there is no other.
-/

import NfcHost.Proofs.Coherence

namespace NfcHost

namespace Standing

def Due (standing : Standing) (block : UInt8) : Prop :=
  standing.stage = .dump ∧
    ∃ tag, standing.tag = some (.type2 tag) ∧ tag.phase = .due ∧ tag.cursor = block

def Pending (standing : Standing) (block : UInt8) : Prop :=
  standing.stage = .dumpResponse ∧
    ∃ tag, standing.tag = some (.type2 tag) ∧ tag.phase = .awaiting ∧ tag.cursor = block

theorem Due.eq {standing : Standing} {first second : UInt8} (left : standing.Due first)
    (right : standing.Due second) : first = second := by
  obtain ⟨_, tag, held, _, rfl⟩ := left
  obtain ⟨_, other, same, _, rfl⟩ := right
  cases held.symm.trans same
  rfl

theorem Pending.eq {standing : Standing} {first second : UInt8} (left : standing.Pending first)
    (right : standing.Pending second) : first = second := by
  obtain ⟨_, tag, held, _, rfl⟩ := left
  obtain ⟨_, other, same, _, rfl⟩ := right
  cases held.symm.trans same
  rfl

theorem due_congr {first second : Standing} {block : UInt8} (stage : first.stage = second.stage)
    (tag : first.tag = second.tag) : first.Due block ↔ second.Due block := by
  rw [Due, Due, stage, tag]

theorem pending_congr {first second : Standing} {block : UInt8}
    (stage : first.stage = second.stage) (tag : first.tag = second.tag) :
    first.Pending block ↔ second.Pending block := by
  rw [Pending, Pending, stage, tag]

theorem pending_of_coherent {standing : Standing} (coherent : Coherent standing)
    (stage : standing.stage = .dumpResponse) :
    ∃ block, standing.Pending block ∧ Type2.Aligned block := by
  have holds := coherent.tag
  rw [stage] at holds
  cases held : standing.tag with
  | none =>
      rw [held] at holds
      exact holds.elim
  | some tag =>
      rw [held] at holds
      cases tag with
      | mifare activation => exact holds.elim
      | type2 tag => exact ⟨tag.cursor, ⟨stage, tag, held, holds.1, rfl⟩, holds.2⟩

end Standing

namespace Record

def chunks (record : Record) : List Chunk :=
  record.deed.notices.filterMap Notice.chunk?

def Reads (record : Record) (block : UInt8) : Prop :=
  ∃ transmission ∈ record.deed.sent, transmission.bytes = Type2.readFrame block

/-- A dump was called for, and the activated endpoint is being read since. -/
def StartsDump (record : Record) : Prop :=
  record.deed.call = .dump ∧ record.before.stage = .discoverActivated ∧
    record.after.stage ≠ .discoverActivated

instance (record : Record) : Decidable record.StartsDump :=
  inferInstanceAs (Decidable (_ ∧ _ ∧ _))

def Activates (record : Record) : Prop :=
  ∃ detection, Notice.detected (.ok detection) ∈ record.deed.notices

/-- How a record bears on the reading of a tag. -/
inductive Reading (record : Record) : Prop
  | begun (starts : record.StartsDump) (silent : record.chunks = [])
      (only : ∀ block, record.Reads block → block = 0)
      (posted : record.after.Due 0 ∨
        (record.after.Pending 0 ∧ wholeFrames record.deed.sent = [Type2.readFrame 0]))
  | asked {block : UInt8} (continues : ¬record.StartsDump) (due : record.before.Due block)
      (silent : record.chunks = []) (only : ∀ other, record.Reads other → other = block)
      (posted : record.after.Due block ∨
        (record.after.Pending block ∧ wholeFrames record.deed.sent = [Type2.readFrame block]))
  | replied {connection : UInt8} {payload : Bytes} {tag next : Type2}
      {outcome : Except Setback Chunk} (continues : ¬record.StartsDump)
      (pending : record.before.Pending tag.cursor)
      (heard : record.deed.heard = some (.data connection, payload))
      (replies : tag.Replies payload outcome next)
      (told : record.deed.notices = [.dumped outcome]) (unsent : record.deed.sent = [])
      (stage : record.after.stage = .dump) (held : record.after.tag = some (.type2 next))
  | kept (continues : ¬record.StartsDump) (silent : record.chunks = [])
      (unread : ∀ block, ¬record.Reads block) (unsent : wholeFrames record.deed.sent = [])
      (stage : record.after.stage = record.before.stage)
      (tag : record.after.tag = record.before.tag)
  | away (continues : ¬record.StartsDump) (silent : record.chunks = [])
      (unread : ∀ block, ¬record.Reads block)
      (stage : record.after.stage ≠ .dump ∧ record.after.stage ≠ .dumpResponse)

end Record

theorem Standing.chunkless_complaints (standing : Standing) (event : Event) :
    (standing.complaints event).filterMap Notice.chunk? = [] := by
  cases event with
  | connectionCredits => rfl
  | data connection payload =>
      change (if standing.operation = .dump then _ else _ : List Notice).filterMap _ = _
      split <;> rfl
  | _ =>
      change (standing.controlComplaints _).filterMap _ = _
      unfold controlComplaints
      split
      · rfl
      · split <;> rfl
      · split <;> rfl
      · rfl
      · rfl

namespace Record

variable {plan : DiscoveryPlan} {standing after : Standing} {deed : Deed} {record : Record}

theorem unread_of_command {permitted : Prop} {command : Command} {outcome : Except Fault Unit}
    (posted : Posts permitted command.encode outcome record.deed.sent) (block : UInt8) :
    ¬record.Reads block := by
  rintro ⟨transmission, member, same⟩
  have fits := (posted.bytes_of_mem member).2
  rw [same] at fits
  exact command.encode_ne_readFrame block fits

theorem unread_of_unsent (unsent : record.deed.sent = []) (block : UInt8) :
    ¬record.Reads block := by
  rintro ⟨transmission, member, _⟩
  rw [unsent] at member
  cases member

theorem block_of_read {permitted : Prop} {block : UInt8} {outcome : Except Fault Unit}
    (posted : Posts permitted (.ok (Type2.readFrame block)) outcome record.deed.sent) (other : UInt8)
    (reads : record.Reads other) : other = block := by
  obtain ⟨transmission, member, same⟩ := reads
  have fits := (posted.bytes_of_mem member).2
  rw [same] at fits
  cases fits
  rfl

private theorem reading_of_reaction {event : Event} {message : Message} {payload : Bytes}
    {sent : List Transmission} {notices : List Notice} {known : Standing}
    {result : Except Setback Unit}
    (reaction : Standing.Reaction plan known event sent notices after)
    (same : known = standing.hear message payload) (came : event = standing.event message payload) :
    (Record.mk standing
      { call := .process, heard := some (message, payload), sent := sent, notices := notices,
        outcome := result } after).Reading := by
  subst same
  cases reaction with
  | @reset report outcome _ _ _ posted =>
      refine .away (fun starts => nomatch starts.1) ?_ (unread_of_command posted) ⟨nofun, nofun⟩
      cases outcome <;> rfl
  | init _ _ =>
      exact .away (fun starts => nomatch starts.1) rfl (unread_of_unsent rfl) ⟨nofun, nofun⟩
  | @discoverMap outcome _ _ _ posted =>
      refine .away (fun starts => nomatch starts.1) ?_ (unread_of_command posted) ⟨nofun, nofun⟩
      cases outcome <;> rfl
  | discover _ _ =>
      exact .away (fun starts => nomatch starts.1) rfl (unread_of_unsent rfl) ⟨nofun, nofun⟩
  | activated _ _ _ =>
      exact .away (fun starts => nomatch starts.1) rfl (unread_of_unsent rfl) ⟨nofun, nofun⟩
  | deactivate _ _ =>
      exact .away (fun starts => nomatch starts.1) rfl (unread_of_unsent rfl) ⟨nofun, nofun⟩
  | deactivated _ _ _ =>
      exact .away (fun starts => nomatch starts.1) rfl (unread_of_unsent rfl) ⟨nofun, nofun⟩
  | @reply connection content tag next lines outcome _ stage held taken =>
      obtain ⟨rfl, rfl⟩ := Standing.data_of_event came
      obtain ⟨reader, rest, rfl, rfl, awaiting, replies⟩ := Tag.takeReply_replies taken
      exact .replied (fun starts => nomatch starts.1) ⟨stage, reader, held, awaiting, rfl⟩ rfl
        replies rfl rfl rfl rfl
  | left _ =>
      exact .kept (fun starts => nomatch starts.1) (Standing.chunkless_complaints _ _)
        (unread_of_unsent rfl) rfl rfl rfl

theorem reading_of_moves (moves : standing.Move plan deed after) (coherent : Coherent standing) :
    (Record.mk standing deed after).Reading := by
  cases moves with
  | resetBlocked kind fault =>
      exact .away (fun starts => nomatch starts.1) rfl (unread_of_unsent rfl) ⟨nofun, nofun⟩
  | resetUnsent kind posted =>
      exact .away (fun starts => nomatch starts.1) rfl (unread_of_command posted) ⟨nofun, nofun⟩
  | resetSent kind posted =>
      exact .away (fun starts => nomatch starts.1) rfl (unread_of_command posted) ⟨nofun, nofun⟩
  | refused barred =>
      refine .kept (fun starts => ?_) rfl (unread_of_unsent rfl) rfl rfl rfl
      exact starts.2.2 starts.2.1
  | discoverUnsent stage posted =>
      exact .kept (fun starts => nomatch starts.1) rfl (unread_of_command posted)
        posted.wholeFrames_of_error rfl rfl
  | discoverSent stage posted =>
      exact .away (fun starts => nomatch starts.1) rfl (unread_of_command posted) ⟨nofun, nofun⟩
  | deactivateUnsent stage posted =>
      exact .kept (fun starts => nomatch starts.1) rfl (unread_of_command posted)
        posted.wholeFrames_of_error rfl rfl
  | deactivateSent stage posted =>
      exact .away (fun starts => nomatch starts.1) rfl (unread_of_command posted) ⟨nofun, nofun⟩
  | dumpUnstarted stage unready =>
      exact .kept (fun starts => starts.2.2 stage) rfl (unread_of_unsent rfl) rfl rfl rfl
  | @dumpUnsent tag _ _ stage held idle posted =>
      refine .begun ⟨rfl, stage, nofun⟩ rfl (block_of_read posted) (.inl ⟨rfl, ?_⟩)
      exact ⟨{ tag with cursor := 0, phase := .due }, rfl, rfl, rfl⟩
  | @dumpSent tag _ stage held idle posted =>
      obtain ⟨frame, fits, written⟩ := posted.wholeFrames_of_ok
      cases fits
      refine .begun ⟨rfl, stage, nofun⟩ rfl (block_of_read posted) (.inr ⟨⟨rfl, ?_⟩, written⟩)
      exact ⟨{ tag with cursor := 0, phase := .awaiting }, rfl, rfl, rfl⟩
  | continueRefused stage unready =>
      exact .kept (fun starts => nomatch starts.1) rfl (unread_of_unsent rfl) rfl rfl rfl
  | continueAlready stage held awaiting =>
      have holds := coherent.tag
      rw [stage, held] at holds
      exact absurd awaiting holds.1
  | @continueUnsent tag _ _ stage held due inside posted =>
      exact .asked (fun starts => nomatch starts.1) ⟨stage, tag, held, due, rfl⟩ rfl
        (block_of_read posted) (.inl ⟨stage, tag, held, due, rfl⟩)
  | @continueSent tag _ stage held due inside posted =>
      obtain ⟨frame, fits, written⟩ := posted.wholeFrames_of_ok
      cases fits
      refine .asked (fun starts => nomatch starts.1) ⟨stage, tag, held, due, rfl⟩ rfl
        (block_of_read posted) (.inr ⟨⟨rfl, ?_⟩, written⟩)
      exact ⟨{ tag with phase := .awaiting }, rfl, rfl, rfl⟩
  | silent fault =>
      exact .kept (fun starts => nomatch starts.1) rfl (unread_of_unsent rfl) rfl rfl rfl
  | heard reaction => exact reading_of_reaction reaction rfl rfl

/-- A reply that comes while a READ is pending ends it, in one notice. -/
theorem reply_of_data {connection : UInt8} {payload : Bytes}
    (moves : standing.Move plan deed after) (coherent : Coherent standing)
    (heard : deed.heard = some (.data connection, payload))
    (stage : standing.stage = .dumpResponse) :
    ∃ tag next outcome, Type2.Replies tag payload outcome next ∧
      deed.notices = [.dumped outcome] ∧ after.stage = .dump ∧ after.tag = some (.type2 next) := by
  obtain ⟨block, ⟨_, tag, held, awaiting, _⟩, _⟩ := Standing.pending_of_coherent coherent stage
  have reaction := moves.reaction heard
  have takes : (standing.hear (.data connection) payload).Takes (.data connection payload) := by
    have holds : (standing.hear (.data connection) payload).tag = some (.type2 tag) := held
    refine ⟨coherent.operation.trans (by rw [stage]; rfl), stage, ?_⟩
    rw [holds]
    exact Type2.takeReply_isSome awaiting payload
  change Standing.Reaction plan _ (.data connection payload) _ _ _ at reaction
  generalize deed.sent = sent at reaction
  generalize deed.notices = notices at reaction ⊢
  cases reaction with
  | reply _ _ _ taken =>
      obtain ⟨reader, next, _, rfl, _, replies⟩ := Tag.takeReply_replies taken
      exact ⟨reader, next, _, replies, rfl, rfl, rfl⟩
  | left leaves => exact absurd takes leaves

theorem request_of_due {block : UInt8} (moves : standing.Move plan deed after)
    (coherent : Coherent standing) (due : standing.Due block) (call : deed.call = .continueDump)
    (active : standing.controller.phase = .pollActive) :
    ∃ report, deed.sent = [⟨Type2.readFrame block, report⟩] := by
  obtain ⟨stage, tag, held, ready, rfl⟩ := due
  have posts {outcome : Except Fault Unit} {sent : List Transmission}
      (posted : Posts (standing.controller.phase = .pollActive)
        (.ok (Type2.readFrame tag.cursor)) outcome sent) :
      ∃ report, sent = [⟨Type2.readFrame tag.cursor, report⟩] := by
    cases posted with
    | refused barred => exact absurd active barred
    | unfit _ failed => cases failed
    | @written transmission _ _ fits _ =>
        rw [Except.ok.inj fits]
        exact ⟨transmission.report, rfl⟩
  have aligned : tag.cursor ≤ Type2.lastRead := by
    have holds := coherent.tag
    rw [stage, held] at holds
    rcases holds.2 with first | second | third | last
    · rw [first]; decide
    · rw [second]; decide
    · rw [third]; decide
    · rw [last]; decide
  cases moves with
  | continueSent _ same _ _ posted =>
      cases held.symm.trans same
      exact posts posted
  | continueUnsent _ same _ _ posted =>
      cases held.symm.trans same
      exact posts posted
  | continueAlready _ same awaiting =>
      cases held.symm.trans same
      cases ready.symm.trans awaiting
  | continueRefused _ unready =>
      rcases unready tag held with idle | beyond
      · cases ready.symm.trans idle
      · exact absurd beyond (UInt8.not_lt.mpr aligned)
  | refused barred =>
      cases call
      exact absurd stage barred
  | _ => cases call

theorem activates_of_stage (moves : standing.Move plan deed after)
    (stage : after.stage = .discoverActivated) :
    standing.stage = .discoverActivated ∨ (Record.mk standing deed after).Activates := by
  cases moves with
  | refused barred => exact .inl stage
  | discoverUnsent _ _ => exact .inl stage
  | deactivateUnsent _ _ => exact .inl stage
  | dumpUnstarted present _ => exact .inl present
  | continueRefused _ _ => exact .inl stage
  | continueUnsent _ _ _ _ _ => exact .inl stage
  | silent fault => exact .inl stage
  | @heard message payload _ _ _ reaction =>
      generalize standing.event message payload = event at reaction
      cases reaction with
      | activated activation _ _ => exact .inr ⟨_, .head _⟩
      | left _ => exact .inl stage
      | _ => cases stage
  | _ => cases stage

end Record
end NfcHost
