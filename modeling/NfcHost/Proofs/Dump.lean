/-
Dumps are faithful.

The chunks of a dump come in order, each in answer to the READ for its own
blocks, and with faithful replies they are the memory from its beginning on.
The invariant ties the block under the cursor to the number of chunks that were
delivered.  A READ that could not be written stays due; a reply that is not
sound ends the dump until an endpoint is activated and a dump begun again.
-/

import NfcHost.Bench.Packets
import NfcHost.Link.Queue
import NfcHost.Proofs.Reading

namespace NfcHost

/-! ### What a course shows of a dump -/

/-- The chunks delivered since a dump was begun last. -/
def delivered (records : List Record) : List Chunk :=
  records.foldl
    (fun soFar record => (if record.StartsDump then [] else soFar) ++ record.chunks) []

theorem delivered_append (past : List Record) (record : Record) :
    delivered (past ++ [record]) =
      (if record.StartsDump then [] else delivered past) ++ record.chunks := by
  rw [delivered, List.foldl_append]
  rfl

theorem delivered_of_continues {past : List Record} {record : Record}
    (continues : ¬record.StartsDump) :
    delivered (past ++ [record]) = delivered past ++ record.chunks := by
  rw [delivered_append, if_neg continues]

def lastFrame? (records : List Record) : Option Bytes :=
  (records.flatMap fun record => wholeFrames record.deed.sent).getLast?

theorem lastFrame?_of_unsent {past : List Record} {record : Record}
    (unsent : wholeFrames record.deed.sent = []) :
    lastFrame? (past ++ [record]) = lastFrame? past := by
  rw [lastFrame?, List.flatMap_append, List.flatMap_singleton, unsent, List.append_nil]
  rfl

theorem lastFrame?_of_written {past : List Record} {record : Record} {frame : Bytes}
    (written : wholeFrames record.deed.sent = [frame]) :
    lastFrame? (past ++ [record]) = some frame := by
  rw [lastFrame?, List.flatMap_append, List.flatMap_singleton, written]
  exact List.getLast?_concat

/-! ### The block under the cursor -/

/-- The READ that is due or pending is that for the next chunk, and a pending one
was the last packet written. -/
structure Tracks (past : List Record) (standing : Standing) : Prop where
  coherent : Coherent standing
  due : ∀ block, standing.Due block → block.toNat = 4 * (delivered past).length
  pending : ∀ block, standing.Pending block →
    block.toNat = 4 * (delivered past).length ∧
      lastFrame? past = some (Type2.readFrame block)

namespace Tracks

variable {plan : DiscoveryPlan} {past : List Record} {record : Record}

theorem not_due_of_stage {standing : Standing} (other : standing.stage ≠ .dump) (block : UInt8) :
    ¬standing.Due block :=
  fun due => other due.1

theorem not_pending_of_stage {standing : Standing} (other : standing.stage ≠ .dumpResponse)
    (block : UInt8) : ¬standing.Pending block :=
  fun pending => other pending.1

theorem start : Tracks [] {} :=
  ⟨.start {}, (fun _ due => nomatch due.1), (fun _ pending => nomatch pending.1)⟩

theorem of_posted {standing : Standing} {block : UInt8} (coherent : Coherent standing)
    (next : block.toNat = 4 * (delivered (past ++ [record])).length)
    (posted : standing.Due block ∨
      (standing.Pending block ∧ wholeFrames record.deed.sent = [Type2.readFrame block])) :
    Tracks (past ++ [record]) standing := by
  rcases posted with due | ⟨pending, written⟩
  · refine ⟨coherent, fun other same => ?_, fun other pending => ?_⟩
    · rw [same.eq due]
      exact next
    · cases due.1.symm.trans pending.1
  · refine ⟨coherent, fun other due => ?_, fun other same => ?_⟩
    · cases due.1.symm.trans pending.1
    · rw [same.eq pending]
      exact ⟨next, lastFrame?_of_written written⟩

theorem step (tracks : Tracks past record.before) (moves : record.Moves plan) :
    Tracks (past ++ [record]) record.after := by
  have coherent := tracks.coherent.of_move moves
  cases Record.reading_of_moves moves tracks.coherent with
  | begun starts silent only posted =>
      refine of_posted coherent ?_ posted
      rw [delivered_append, if_pos starts, silent]
      rfl
  | asked continues due silent only posted =>
      refine of_posted coherent ?_ posted
      rw [delivered_of_continues continues, silent, List.append_nil]
      exact tracks.due _ due
  | @replied connection payload tag next outcome continues pending heard replies told _ stage held =>
      refine ⟨coherent, fun block due => ?_, fun block pending => ?_⟩
      · obtain ⟨_, other, same, ready, rfl⟩ := due
        cases held.symm.trans same
        cases replies with
        | bad unsound => cases ready
        | last sound ended => cases ready
        | more sound inside =>
            have soFar := (tracks.pending tag.cursor pending).1
            have chunks : record.chunks = [⟨payload.take Type2.chunkSize, true⟩] := by
              rw [Record.chunks, told]
              rfl
            rw [delivered_of_continues continues, chunks, List.length_append]
            have bound : tag.cursor.toNat < 12 := inside
            have width : Type2.blocksPerRead.toNat = 4 := rfl
            have sum : (tag.cursor + Type2.blocksPerRead).toNat = tag.cursor.toNat + 4 := by
              rw [UInt8.toNat_add, width]
              exact Nat.mod_eq_of_lt (by omega)
            change (tag.cursor + Type2.blocksPerRead).toNat = _
            rw [sum, soFar]
            simp only [List.length_singleton]
            omega
      · cases stage.symm.trans pending.1
  | kept continues silent unread unsent stage tag =>
      have same : delivered (past ++ [record]) = delivered past := by
        rw [delivered_of_continues continues, silent, List.append_nil]
      refine ⟨coherent, fun block due => ?_, fun block pending => ?_⟩
      · rw [same]
        exact tracks.due block ((Standing.due_congr stage tag).mp due)
      · rw [same, lastFrame?_of_unsent unsent]
        exact tracks.pending block ((Standing.pending_congr stage tag).mp pending)
  | away continues silent unread stage =>
      exact ⟨coherent, fun block due => absurd due (not_due_of_stage stage.1 block),
        fun block pending => absurd pending (not_pending_of_stage stage.2 block)⟩

end Tracks

/-- The record delivers a chunk as the next one of the dump. -/
structure Record.DeliversNext (past : List Record) (record : Record) (chunk : Chunk) : Prop where
  heard : ∃ connection, record.deed.heard = some (.data connection, chunk.data ++ [0])
  size : chunk.data.length = 16
  told : record.deed.notices = [.dumped (.ok chunk)]
  asked : ∃ block, lastFrame? past = some (Type2.readFrame block) ∧
    block.toNat = 4 * (delivered past).length
  inside : (delivered past).length ≤ 3
  more : chunk.more = decide ((delivered past).length < 3)

namespace Tracks

variable {plan : DiscoveryPlan} {past : List Record} {record : Record}

theorem delivers_next (tracks : Tracks past record.before) (moves : record.Moves plan)
    {chunk : Chunk} (member : Notice.dumped (.ok chunk) ∈ record.deed.notices) :
    record.DeliversNext past chunk := by
  have listed : chunk ∈ record.chunks := List.mem_filterMap.mpr ⟨_, member, rfl⟩
  have loud : record.chunks ≠ [] := List.ne_nil_of_mem listed
  cases Record.reading_of_moves moves tracks.coherent with
  | begun _ silent _ _ => exact absurd silent loud
  | asked _ _ silent _ _ => exact absurd silent loud
  | kept _ silent _ _ _ _ => exact absurd silent loud
  | away _ silent _ _ => exact absurd silent loud
  | @replied connection payload tag next outcome _ pending heard replies told _ _ _ =>
      rw [told] at member
      cases List.mem_singleton.mp member
      obtain ⟨next, frame⟩ := tracks.pending tag.cursor pending
      obtain ⟨block, same, aligned⟩ := Standing.pending_of_coherent tracks.coherent pending.1
      rw [← pending.eq same] at aligned
      cases replies with
      | more sound inside =>
          obtain ⟨whole, size⟩ := sound.eq_append
          have bound : tag.cursor.toNat < 12 := inside
          have early : (delivered past).length < 3 := by omega
          refine ⟨⟨connection, ?_⟩, size, told, ⟨tag.cursor, frame, next⟩, by omega, ?_⟩
          · rw [← whole]
            exact heard
          · exact (decide_eq_true early).symm
      | last sound ended =>
          obtain ⟨whole, size⟩ := sound.eq_append
          have final : tag.cursor.toNat = 12 := by
            rcases aligned with first | second | third | last
            · exact absurd (by rw [first]; decide) ended
            · exact absurd (by rw [second]; decide) ended
            · exact absurd (by rw [third]; decide) ended
            · rw [last]
              rfl
          have late : ¬(delivered past).length < 3 := by omega
          refine ⟨⟨connection, ?_⟩, size, told, ⟨tag.cursor, frame, next⟩, by omega, ?_⟩
          · rw [← whole]
            exact heard
          · exact (decide_eq_false late).symm

theorem reads_next (tracks : Tracks past record.before) (moves : record.Moves plan)
    {block : UInt8} (reads : record.Reads block) :
    block.toNat = 4 * (if record.StartsDump then 0 else (delivered past).length) := by
  cases Record.reading_of_moves moves tracks.coherent with
  | begun starts _ only _ =>
      rw [only block reads, if_pos starts]
      rfl
  | asked continues due _ only _ =>
      rw [only block reads, if_neg continues]
      exact tracks.due _ due
  | kept _ _ unread _ _ _ => exact absurd reads (unread block)
  | away _ _ unread _ => exact absurd reads (unread block)
  | replied _ _ _ _ _ unsent _ _ => exact absurd reads (Record.unread_of_unsent unsent block)

end Tracks

theorem Course.tracks {plan : DiscoveryPlan} {records : List Record} {after : Standing}
    (course : Course plan {} records after) : Tracks records after :=
  course.invariant Tracks (fun _ _ tracks moves => tracks.step moves) .start

/-! ### A READ that could not be written -/

def Unread (records : List Record) : Prop :=
  ∀ record ∈ records, ¬record.StartsDump ∧ ∀ block, ¬record.Reads block

theorem Record.reads_of_written {record : Record} {block : UInt8}
    (written : wholeFrames record.deed.sent = [Type2.readFrame block]) : record.Reads block := by
  have member : Type2.readFrame block ∈ wholeFrames record.deed.sent := by
    rw [written]
    exact .head _
  obtain ⟨transmission, sent, taken⟩ := List.mem_filterMap.mp member
  exact ⟨transmission, sent, ((transmission.frame?_eq_some_iff _).mp taken).2⟩

/-- Until the next READ, a READ that is due stays due while the dump goes on. -/
structure Resting (block : UInt8) (standing : Standing) : Prop where
  coherent : Coherent standing
  due : standing.stage = .dump → standing.Due block
  idle : standing.stage ≠ .dumpResponse

namespace Resting

variable {plan : DiscoveryPlan} {record : Record} {block : UInt8}

theorem of_failed (moves : record.Moves plan) (coherent : Coherent record.before)
    (reads : record.Reads block) (failed : Type2.readFrame block ∉ wholeFrames record.deed.sent) :
    Resting block record.after := by
  have rest (posted : record.after.Due block ∨
      (record.after.Pending block ∧ wholeFrames record.deed.sent = [Type2.readFrame block])) :
      Resting block record.after := by
    rcases posted with due | ⟨_, written⟩
    · refine ⟨coherent.of_move moves, fun _ => due, fun reading => ?_⟩
      cases due.1.symm.trans reading
    · rw [written] at failed
      exact absurd (.head _) failed
  cases Record.reading_of_moves moves coherent with
  | begun _ _ only posted =>
      cases only block reads
      exact rest posted
  | asked _ _ _ only posted =>
      cases only block reads
      exact rest posted
  | kept _ _ unread _ _ _ => exact absurd reads (unread block)
  | away _ _ unread _ => exact absurd reads (unread block)
  | replied _ _ _ _ _ unsent _ _ => exact absurd reads (Record.unread_of_unsent unsent block)

theorem step (resting : Resting block record.before) (moves : record.Moves plan)
    (unread : Unread [record]) : Resting block record.after := by
  obtain ⟨continues, unread⟩ := unread record (.head _)
  have coherent := resting.coherent.of_move moves
  cases Record.reading_of_moves moves resting.coherent with
  | begun starts _ _ _ => exact absurd starts continues
  | asked _ due _ _ posted =>
      rcases posted with due' | ⟨_, written⟩
      · refine ⟨coherent, fun _ => ?_, fun reading => ?_⟩
        · rw [(resting.due due.1).eq due]
          exact due'
        · cases due'.1.symm.trans reading
      · exact absurd (Record.reads_of_written written) (unread _)
  | replied _ pending _ _ _ _ _ _ => exact absurd pending.1 resting.idle
  | kept _ _ _ _ stage tag =>
      refine ⟨coherent, fun reading => ?_, fun reading => ?_⟩
      · exact (Standing.due_congr stage tag).mpr (resting.due (stage.symm.trans reading))
      · exact resting.idle (stage.symm.trans reading)
  | away _ _ _ stage =>
      exact ⟨coherent, fun reading => absurd reading stage.1, stage.2⟩

theorem reads_same (resting : Resting block record.before) (moves : record.Moves plan)
    {other : UInt8} (reads : record.Reads other) : record.StartsDump ∨ other = block := by
  cases Record.reading_of_moves moves resting.coherent with
  | begun starts _ _ _ => exact .inl starts
  | asked _ due _ only _ => exact .inr ((only other reads).trans (due.eq (resting.due due.1)))
  | replied _ pending _ _ _ _ _ _ => exact absurd pending.1 resting.idle
  | kept _ _ unread _ _ _ => exact absurd reads (unread other)
  | away _ _ unread _ => exact absurd reads (unread other)

theorem chunkless (resting : Resting block record.before) (moves : record.Moves plan) :
    record.chunks = [] := by
  cases Record.reading_of_moves moves resting.coherent with
  | begun _ silent _ _ => exact silent
  | asked _ _ silent _ _ => exact silent
  | replied _ pending _ _ _ _ _ _ => exact absurd pending.1 resting.idle
  | kept _ silent _ _ _ _ => exact silent
  | away _ silent _ _ => exact silent

end Resting

/-! ### A reply that is not sound -/

def Restarted (records : List Record) : Prop :=
  ∃ early activation late, records = early ++ activation :: late ∧ activation.Activates ∧
    ∃ start ∈ late, start.StartsDump

theorem Restarted.append {records : List Record} (restarted : Restarted records)
    (more : List Record) : Restarted (records ++ more) := by
  obtain ⟨early, activation, late, rfl, activates, start, member, starts⟩ := restarted
  refine ⟨early, activation, late ++ more, ?_, activates, start, ?_, starts⟩
  · rw [List.append_assoc, List.cons_append]
  · exact List.mem_append_left _ member

theorem Restarted.of_start {records : List Record} {activation start : Record}
    (member : activation ∈ records) (activates : activation.Activates)
    (starts : start.StartsDump) : Restarted (records ++ [start]) := by
  obtain ⟨early, late, rfl⟩ := List.append_of_mem member
  refine ⟨early, activation, late ++ [start], ?_, activates, start, ?_, starts⟩
  · rw [List.append_assoc, List.cons_append]
  · exact List.mem_append_right _ (.head _)

/-- No READ is due or pending until a dump is begun on a new activation. -/
structure Ended (since : List Record) (standing : Standing) : Prop where
  coherent : Coherent standing
  activated : standing.stage = .discoverActivated → ∃ record ∈ since, record.Activates
  spent : Restarted since ∨
    ((∀ block, ¬standing.Due block) ∧ standing.stage ≠ .dumpResponse)

namespace Ended

variable {plan : DiscoveryPlan} {since : List Record} {record : Record}

theorem of_unsound {connection : UInt8} {payload : Bytes} (moves : record.Moves plan)
    (coherent : Coherent record.before)
    (heard : record.deed.heard = some (.data connection, payload))
    (stage : record.before.stage = .dumpResponse) (unsound : ¬Type2.Sound payload) :
    record.deed.notices = [.dumped (.error .failed)] ∧ Ended [] record.after := by
  obtain ⟨tag, next, outcome, replies, told, rest, held⟩ :=
    Record.reply_of_data moves coherent heard stage
  cases replies with
  | bad _ =>
      refine ⟨told, coherent.of_move moves, fun activated => ?_, .inr ⟨fun block due => ?_, ?_⟩⟩
      · cases rest.symm.trans activated
      · obtain ⟨_, other, same, ready, _⟩ := due
        cases held.symm.trans same
        cases ready
      · intro reading
        cases rest.symm.trans reading
  | more sound _ => exact absurd sound unsound
  | last sound _ => exact absurd sound unsound

theorem step (ended : Ended since record.before) (moves : record.Moves plan) :
    Ended (since ++ [record]) record.after := by
  refine ⟨ended.coherent.of_move moves, fun stage => ?_, ?_⟩
  · rcases Record.activates_of_stage moves stage with present | activates
    · obtain ⟨activation, member, activates⟩ := ended.activated present
      exact ⟨activation, List.mem_append_left _ member, activates⟩
    · exact ⟨record, List.mem_append_right _ (.head _), activates⟩
  · rcases ended.spent with restarted | ⟨undue, idle⟩
    · exact .inl (restarted.append _)
    · cases Record.reading_of_moves moves ended.coherent with
      | begun starts _ _ _ =>
          obtain ⟨activation, member, activates⟩ := ended.activated starts.2.1
          exact .inl (.of_start member activates starts)
      | asked _ due _ _ _ => exact absurd due (undue _)
      | replied _ pending _ _ _ _ _ _ => exact absurd pending.1 idle
      | kept _ _ _ _ stage tag =>
          refine .inr ⟨fun block due => undue block ?_, fun reading => ?_⟩
          · exact (Standing.due_congr stage tag).mp due
          · exact idle (stage.symm.trans reading)
      | away _ _ _ stage => exact .inr ⟨fun block due => stage.1 due.1, stage.2⟩

/-- After the end of a dump nothing is delivered and no READ is sent, until a dump
is begun on a new activation. -/
theorem restarted_or_quiet (ended : Ended since record.before) (moves : record.Moves plan) :
    Restarted (since ++ [record]) ∨ (record.chunks = [] ∧ ∀ block, ¬record.Reads block) := by
  rcases ended.spent with restarted | ⟨undue, idle⟩
  · exact .inl (restarted.append _)
  · cases Record.reading_of_moves moves ended.coherent with
    | begun starts _ _ _ =>
        obtain ⟨activation, member, activates⟩ := ended.activated starts.2.1
        exact .inl (.of_start member activates starts)
    | asked _ due _ _ _ => exact absurd due (undue _)
    | replied _ pending _ _ _ _ _ _ => exact absurd pending.1 idle
    | kept _ silent unread _ _ _ => exact .inr ⟨silent, unread⟩
    | away _ silent unread _ => exact .inr ⟨silent, unread⟩

end Ended

/-! ### The memory of a tag -/

/-- Since a dump was begun last, every packet of data that came in answer to a READ
holds the memory from its block on. -/
def Faithful (memory : Bytes) (records : List Record) : Prop :=
  ∀ past record future, records = past ++ record :: future →
    (∀ made ∈ record :: future, ¬made.StartsDump) →
      ∀ connection payload block, record.deed.heard = some (.data connection, payload) →
        lastFrame? past = some (Type2.readFrame block) →
          payload = (memory.drop (4 * block.toNat)).take 16 ++ [0]

theorem Faithful.before {memory : Bytes} {past : List Record} {record : Record}
    (faithful : Faithful memory (past ++ [record])) (continues : ¬record.StartsDump) :
    Faithful memory past := by
  intro early made late same continued
  refine faithful early made (late ++ [record]) ?_ ?_
  · rw [same, List.append_assoc, List.cons_append]
  · intro other member
    rw [← List.cons_append] at member
    rcases List.mem_append.mp member with earlier | last
    · exact continued other earlier
    · rw [List.mem_singleton.mp last]
      exact continues

theorem Notice.eq_of_chunk? {notice : Notice} {chunk : Chunk}
    (delivers : notice.chunk? = some chunk) : notice = .dumped (.ok chunk) := by
  unfold chunk? at delivers
  split at delivers
  · rw [Option.some.inj delivers]
  · cases delivers

theorem Tracks.delivered_of_starts {plan : DiscoveryPlan} {past : List Record} {record : Record}
    (tracks : Tracks past record.before) (moves : record.Moves plan) (starts : record.StartsDump) :
    delivered (past ++ [record]) = [] := by
  rw [delivered_append, if_pos starts]
  cases Record.reading_of_moves moves tracks.coherent with
  | begun _ silent _ _ => exact silent
  | asked continues _ _ _ _ => exact absurd starts continues
  | replied continues _ _ _ _ _ _ _ => exact absurd starts continues
  | kept continues _ _ _ _ _ => exact absurd starts continues
  | away continues _ _ _ => exact absurd starts continues

theorem Tracks.image_step {plan : DiscoveryPlan} {past : List Record} {record : Record}
    {memory : Bytes} (tracks : Tracks past record.before) (moves : record.Moves plan)
    (faithful : Faithful memory (past ++ [record]))
    (soFar : Faithful memory past →
      (delivered past).flatMap Chunk.data = memory.take (16 * (delivered past).length)) :
    (delivered (past ++ [record])).flatMap Chunk.data =
      memory.take (16 * (delivered (past ++ [record])).length) := by
  by_cases starts : record.StartsDump
  · rw [tracks.delivered_of_starts moves starts]
    rfl
  · have before := soFar (faithful.before starts)
    rw [delivered_of_continues starts]
    cases listed : record.chunks with
    | nil =>
        rw [List.append_nil]
        exact before
    | cons chunk rest =>
        have member : chunk ∈ record.chunks := by
          rw [listed]
          exact .head _
        obtain ⟨notice, told, delivers⟩ := List.mem_filterMap.mp member
        rw [Notice.eq_of_chunk? delivers] at told
        have next := tracks.delivers_next moves told
        have single : record.chunks = [chunk] := by
          rw [Record.chunks, next.told]
          rfl
        obtain ⟨connection, heard⟩ := next.heard
        obtain ⟨block, frame, count⟩ := next.asked
        have content := faithful past record [] rfl
          (fun made only => by rw [List.mem_singleton.mp only]; exact starts)
          connection _ block heard frame
        have data : chunk.data = (memory.drop (16 * (delivered past).length)).take 16 := by
          rw [List.append_cancel_right content, count, ← Nat.mul_assoc]
        rw [← listed, single, List.flatMap_append, before, List.flatMap_singleton, data,
          List.length_append, List.length_singleton, Nat.mul_add, List.take_add]

/-! ### Dumps of a whole course -/

/-- Dumps deliver what the tag sent, chunk by chunk. -/
structure DumpsFaithfully (records : List Record) : Prop where
  delivers : ∀ past record future, records = past ++ record :: future →
    ∀ chunk, Notice.dumped (.ok chunk) ∈ record.deed.notices → record.DeliversNext past chunk
  reads : ∀ past record future, records = past ++ record :: future →
    ∀ block, record.Reads block →
      block.toNat = 4 * (if record.StartsDump then 0 else (delivered past).length)
  /-- A READ that was not written whole is sent again for the same block, and
  nothing is delivered before that. -/
  retries : ∀ past failed mid again future,
    records = past ++ failed :: (mid ++ again :: future) →
      ∀ block, failed.Reads block → Type2.readFrame block ∉ wholeFrames failed.deed.sent →
        Unread mid →
          again.chunks = [] ∧
          (∀ other, again.Reads other → again.StartsDump ∨ other = block) ∧
          (again.before.stage = .dump → again.deed.call = .continueDump →
            again.before.controller.phase = .pollActive →
              ∃ report, again.deed.sent = [⟨Type2.readFrame block, report⟩])
  fails : ∀ past bad future, records = past ++ bad :: future →
    ∀ connection payload, bad.deed.heard = some (.data connection, payload) →
      bad.before.stage = .dumpResponse → ¬Type2.Sound payload →
        bad.deed.notices = [.dumped (.error .failed)]
  ends : ∀ past bad mid later future, records = past ++ bad :: (mid ++ later :: future) →
    ∀ connection payload, bad.deed.heard = some (.data connection, payload) →
      bad.before.stage = .dumpResponse → ¬Type2.Sound payload →
        Restarted (mid ++ [later]) ∨ (later.chunks = [] ∧ ∀ block, ¬later.Reads block)
  image : ∀ past future, records = past ++ future → ∀ memory, Faithful memory past →
    (delivered past).flatMap Chunk.data = memory.take (16 * (delivered past).length)

theorem Course.dumpsFaithfully {plan : DiscoveryPlan} {records : List Record} {last : Standing}
    (course : Course plan {} records last) : DumpsFaithfully records where
  delivers past record future shown chunk told := by
    subst shown
    obtain ⟨early, moves, _⟩ := course.split_at
    exact early.tracks.delivers_next moves told
  reads past record future shown block reads := by
    subst shown
    obtain ⟨early, moves, _⟩ := course.split_at
    exact early.tracks.reads_next moves reads
  retries past failed mid again future shown block reads unwritten unread := by
    subst shown
    obtain ⟨early, failing, rest⟩ := course.split_at
    obtain ⟨between, moves, _⟩ := rest.split_at
    have begun := Resting.of_failed failing early.tracks.coherent reads unwritten
    have resting : Unread mid → Resting block again.before := by
      refine between.invariant (fun since standing => Unread since → Resting block standing)
        (fun since record soFar moves unread => ?_) (fun _ => begun)
      have before := soFar fun made member => unread made (List.mem_append_left _ member)
      exact before.step moves fun made member => unread made (List.mem_append_right _ member)
    refine ⟨(resting unread).chunkless moves, fun other => (resting unread).reads_same moves, ?_⟩
    intro stage call active
    exact Record.request_of_due moves (resting unread).coherent ((resting unread).due stage) call
      active
  fails past bad future shown connection payload heard stage unsound := by
    subst shown
    obtain ⟨early, moves, _⟩ := course.split_at
    exact (Ended.of_unsound moves early.tracks.coherent heard stage unsound).1
  ends past bad mid later future shown connection payload heard stage unsound := by
    subst shown
    obtain ⟨early, failing, rest⟩ := course.split_at
    obtain ⟨between, moves, _⟩ := rest.split_at
    have begun := (Ended.of_unsound failing early.tracks.coherent heard stage unsound).2
    have ended := between.invariant Ended (fun _ _ ended moves => ended.step moves) begun
    exact ended.restarted_or_quiet moves
  image past future shown memory faithful := by
    subst shown
    obtain ⟨middle, early, _⟩ := course.split
    refine (early.invariant
      (fun since standing => Tracks since standing ∧ (Faithful memory since →
        (delivered since).flatMap Chunk.data = memory.take (16 * (delivered since).length)))
      (fun since record soFar moves => ?_) ⟨.start, fun _ => rfl⟩).2 faithful
    exact ⟨soFar.1.step moves, fun faithful => soFar.1.image_step moves faithful soFar.2⟩

/-- In every run, dumps are faithful. -/
theorem Session.dumps_faithfully {σ : Type} [Link σ] (link : σ) (threshold : Threshold)
    (plan : DiscoveryPlan) (turns : List (Turn σ)) :
    DumpsFaithfully (history link threshold plan turns) := by
  obtain ⟨last, course⟩ := history_course link threshold plan turns
  exact course.dumpsFaithfully

open Bench

def wholeDump : List (Turn QueueLink) :=
  [ ⟨id, .reset .keepConfig⟩,
    ⟨.push (resetResponse .ok), .process⟩,
    ⟨.push (initResponse .ok), .process⟩,
    ⟨id, .discover⟩,
    ⟨.push (discoverMapResponse .ok), .process⟩,
    ⟨.push (discoverResponse .ok), .process⟩,
    ⟨.push (activated [0x04, 0x01, 0x02, 0x03, 0x04, 0x05, 0x06] none), .process⟩,
    ⟨id, .dump⟩,
    ⟨.push (packet 0x00 0x00 (readReply 0)), .process⟩,
    ⟨id, .continueDump⟩,
    ⟨.push (packet 0x00 0x00 (readReply 1)), .process⟩,
    ⟨id, .continueDump⟩,
    ⟨.push (packet 0x00 0x00 (readReply 2)), .process⟩,
    ⟨id, .continueDump⟩,
    ⟨.push (packet 0x00 0x00 (readReply 3)), .process⟩ ]

/-- The last reply of a whole dump delivers the fourth chunk. -/
theorem Session.dumps_faithfully_whole_dump :
    ∃ past record, history ({} : QueueLink) none .standard wholeDump = past ++ [record] ∧
      (delivered past).length = 3 ∧
      record.DeliversNext past ⟨(readReply 3).take Type2.chunkSize, false⟩ := by
  have faithful := dumps_faithfully ({} : QueueLink) none .standard wholeDump
  have cut := List.take_append_drop 14 (history ({} : QueueLink) none .standard wholeDump)
  exact ⟨_, _, cut.symm, rfl, faithful.delivers _ _ [] cut.symm _ (.head _)⟩

end NfcHost
