/-
How the parts of a session fit together.

Operation, stage and tag are set in many places.  They are coherent when the
operation is the one that owns the stage and the tag is what the stage needs:
none outside an activation, one that is untouched before a dump, and one that
awaits a reply exactly while the session does.  Every move keeps that.
-/

import NfcHost.Proofs.Run

namespace NfcHost

/-! ### Replies of a tag -/

namespace Type2

def Sound (reply : Bytes) : Prop :=
  reply.length = chunkSize + 1 ∧ reply.getLast? = some 0

instance (reply : Bytes) : Decidable (Sound reply) :=
  inferInstanceAs (Decidable (_ ∧ _))

theorem Sound.eq_append {reply : Bytes} (sound : Sound reply) :
    reply = reply.take chunkSize ++ [0] ∧ (reply.take chunkSize).length = chunkSize := by
  obtain ⟨size, last⟩ := sound
  have filled : reply ≠ [] := by
    rintro rfl
    cases last
  have status : reply.getLast filled = 0 := by
    rw [List.getLast?_eq_some_getLast filled] at last
    exact Option.some.inj last
  have whole := List.dropLast_concat_getLast filled
  rw [status, List.dropLast_eq_take, size] at whole
  refine ⟨whole.symm, ?_⟩
  rw [List.length_take, size]
  decide

theorem sound_append {data : Bytes} (size : data.length = chunkSize) : Sound (data ++ [0]) := by
  refine ⟨?_, List.getLast?_concat⟩
  rw [List.length_append, size]
  rfl

theorem checkReply_ok_iff (reply : Bytes) : checkReply reply = .ok () ↔ Sound reply := by
  by_cases size : reply.length = chunkSize + 1
  · have status : reply.getLast? = some (reply.getD chunkSize 0) := by
      have inside : chunkSize < reply.length := by omega
      rw [List.getLast?_eq_getElem?, size, Nat.add_sub_cancel, List.getD_eq_getElem?_getD,
        List.getElem?_eq_getElem inside, Option.getD_some]
    have shape : Field.exactly reply (chunkSize + 1) = .ok () := Field.exactly_of_eq size
    unfold checkReply Sound
    rw [shape, status]
    dsimp only
    constructor
    · intro accepted
      split at accepted
      · rename_i zero
        exact ⟨size, congrArg some zero⟩
      · cases accepted
    · rintro ⟨_, last⟩
      rw [Option.some.inj last]
      rfl
  · have shape : Field.exactly reply (chunkSize + 1) =
        .error (.invalidLength (chunkSize + 1) reply.length) := Field.exactly_of_ne size
    unfold checkReply Sound
    rw [shape]
    constructor
    · intro accepted
      cases accepted
    · intro sound
      exact absurd sound.1 size

theorem setback_of_checkReply {reply : Bytes} {fault : Fault}
    (bad : checkReply reply = .error fault) : fault.setback = .failed := by
  unfold checkReply at bad
  split at bad
  · rename_i wrong shape
    cases bad
    unfold Field.exactly at shape
    split at shape
    · cases shape
    · cases shape
      rfl
  · split at bad
    · cases bad
    · cases bad
      rfl

/-- What a tag makes of the reply it awaits. -/
inductive Replies (tag : Type2) (reply : Bytes) : Except Setback Chunk → Type2 → Prop
  | bad (unsound : ¬Sound reply) :
      Replies tag reply (.error .failed) { tag with phase := .idle }
  | more (sound : Sound reply) (inside : tag.cursor < lastRead) :
      Replies tag reply (.ok ⟨reply.take chunkSize, true⟩)
        { tag with
          chunk := reply.take chunkSize
          cursor := tag.cursor + blocksPerRead
          phase := .due }
  | last (sound : Sound reply) (ended : ¬tag.cursor < lastRead) :
      Replies tag reply (.ok ⟨reply.take chunkSize, false⟩)
        { tag with chunk := reply.take chunkSize, phase := .idle }

theorem takeReply_replies {tag after : Type2} {reply : Bytes} {outcome : Except Setback Chunk}
    {lines : List Line} (taken : tag.takeReply reply = (some outcome, after, lines)) :
    tag.phase = .awaiting ∧ tag.Replies reply outcome after := by
  unfold takeReply at taken
  split at taken
  · rename_i awaiting
    refine ⟨awaiting, ?_⟩
    split at taken
    · rename_i fault bad
      cases taken
      rw [setback_of_checkReply bad]
      apply Replies.bad
      intro sound
      rw [(checkReply_ok_iff reply).mpr sound] at bad
      cases bad
    · rename_i accepted
      have sound := (checkReply_ok_iff reply).mp accepted
      dsimp only at taken
      split at taken
      · rename_i inside
        cases taken
        exact .more sound inside
      · rename_i ended
        cases taken
        exact .last sound ended
  · cases taken

theorem takeReply_isSome {tag : Type2} (awaiting : tag.phase = .awaiting) (reply : Bytes) :
    (tag.takeReply reply).1.isSome := by
  unfold takeReply
  rw [awaiting]
  dsimp only
  split
  · rfl
  · split <;> rfl

def Aligned (block : UInt8) : Prop :=
  block = 0 ∨ block = 4 ∨ block = 8 ∨ block = 12

theorem Aligned.le_lastRead {block : UInt8} (aligned : Aligned block) : block ≤ lastRead := by
  rcases aligned with rfl | rfl | rfl | rfl <;> decide

theorem Aligned.next {block : UInt8} (aligned : Aligned block) (inside : block < lastRead) :
    Aligned (block + blocksPerRead) := by
  rcases aligned with rfl | rfl | rfl | rfl
  · exact .inr (.inl rfl)
  · exact .inr (.inr (.inl rfl))
  · exact .inr (.inr (.inr rfl))
  · exact absurd inside (by decide)

end Type2

theorem Tag.takeReply_replies {tag after : Tag} {reply : Bytes} {outcome : Except Setback Chunk}
    {lines : List Line} (taken : tag.takeReply reply = (some outcome, after, lines)) :
    ∃ reader next, tag = .type2 reader ∧ after = .type2 next ∧ reader.phase = .awaiting ∧
      reader.Replies reply outcome next := by
  cases tag with
  | mifare activation => cases taken
  | type2 reader =>
      rcases reading : reader.takeReply reply with ⟨result, next, written⟩
      unfold Tag.takeReply at taken
      dsimp only at taken
      rw [reading] at taken
      cases taken
      exact ⟨reader, next, rfl, rfl, Type2.takeReply_replies reading⟩

/-! ### Coherent standings -/

/-- The tag that a stage needs. -/
def Stage.Holds (stage : Stage) (tag : Option Tag) : Prop :=
  match stage, tag with
  | .discoverActivated, some (.type2 tag) => tag.phase = .idle ∧ tag.cursor = 0
  | .discoverActivated, _ => True
  | .dump, some (.type2 tag) => tag.phase ≠ .awaiting ∧ Type2.Aligned tag.cursor
  | .dumpResponse, some (.type2 tag) => tag.phase = .awaiting ∧ Type2.Aligned tag.cursor
  | .dump, _ => False
  | .dumpResponse, _ => False
  | .deactivateNotification, _ => False
  | _, tag => tag = .none

structure Coherent (standing : Standing) : Prop where
  operation : standing.operation = standing.stage.operation
  tag : standing.stage.Holds standing.tag

namespace Coherent

variable {plan : DiscoveryPlan} {standing after : Standing}

theorem start (controller : Controller) : Coherent { controller := controller } :=
  ⟨rfl, rfl⟩

theorem hear (coherent : Coherent standing) (message : Message) (payload : Bytes) :
    Coherent (standing.hear message payload) :=
  ⟨coherent.operation, coherent.tag⟩

theorem of_reaction {event : Event} {sent : List Transmission} {notices : List Notice}
    (reaction : Standing.Reaction plan standing event sent notices after)
    (coherent : Coherent standing) : Coherent after := by
  obtain ⟨own, holds⟩ := coherent
  cases reaction with
  | reset _ stage _ =>
      rw [stage] at own holds
      exact ⟨own, holds⟩
  | init _ stage =>
      rw [stage] at own holds
      exact ⟨own, holds⟩
  | discoverMap _ stage _ =>
      rw [stage] at own holds
      exact ⟨own, holds⟩
  | discover _ stage =>
      rw [stage] at own holds
      exact ⟨own, holds⟩
  | activated activation _ stage =>
      rw [stage] at own holds
      refine ⟨own, ?_⟩
      cases activation.tagFamily? with
      | none => trivial
      | some family =>
          cases family with
          | type2 => exact ⟨rfl, rfl⟩
          | mifare => trivial
  | deactivate _ stage =>
      rw [stage] at own holds
      exact ⟨own, holds⟩
  | deactivated _ _ stage =>
      rw [stage] at own holds
      exact ⟨rfl, holds⟩
  | @reply connection payload tag next lines outcome _ stage held taken =>
      rw [stage] at own holds
      refine ⟨own, ?_⟩
      rw [held] at holds
      obtain ⟨reader, after, rfl, rfl, _, replies⟩ := Tag.takeReply_replies taken
      obtain ⟨_, aligned⟩ := holds
      cases replies with
      | bad unsound => exact ⟨nofun, aligned⟩
      | more sound inside => exact ⟨nofun, aligned.next inside⟩
      | last sound ended => exact ⟨nofun, aligned⟩
  | left _ => exact ⟨own, holds⟩

theorem of_move {deed : Deed} (move : standing.Move plan deed after)
    (coherent : Coherent standing) : Coherent after := by
  obtain ⟨own, holds⟩ := coherent
  cases move with
  | resetBlocked kind fault => exact start _
  | resetUnsent kind posted => exact start _
  | resetSent kind posted => exact ⟨rfl, rfl⟩
  | refused barred => exact ⟨own, holds⟩
  | discoverUnsent stage posted => exact ⟨own, holds⟩
  | discoverSent stage posted =>
      rw [stage] at holds
      exact ⟨rfl, holds⟩
  | deactivateUnsent stage posted => exact ⟨own, holds⟩
  | deactivateSent stage posted => exact ⟨rfl, rfl⟩
  | dumpUnstarted stage unready => exact ⟨own, holds⟩
  | dumpUnsent stage held idle posted => exact ⟨rfl, nofun, .inl rfl⟩
  | dumpSent stage held idle posted => exact ⟨rfl, rfl, .inl rfl⟩
  | continueRefused stage unready => exact ⟨own, holds⟩
  | continueAlready stage held awaiting =>
      rw [stage, held] at holds
      exact absurd awaiting holds.1
  | continueUnsent stage held due inside posted => exact ⟨own, holds⟩
  | continueSent stage held due inside posted =>
      rw [stage, held] at holds
      rw [stage] at own
      exact ⟨own, rfl, holds.2⟩
  | silent fault => exact ⟨own, holds⟩
  | heard reaction => exact of_reaction reaction (hear ⟨own, holds⟩ _ _)

end Coherent

/-- Every course keeps the parts of a session together. -/
theorem Course.coherent {plan : DiscoveryPlan} {records : List Record} {after : Standing}
    (course : Course plan {} records after) : Coherent after :=
  course.invariant (fun _ standing => Coherent standing)
    (fun _ _ coherent moves => coherent.of_move moves) (.start {})

theorem Course.move_of_mem {plan : DiscoveryPlan} {records : List Record} {last : Standing}
    (course : Course plan {} records last) {record : Record} (member : record ∈ records) :
    Coherent record.before ∧ record.before.Move plan record.deed record.after := by
  obtain ⟨past, future, rfl⟩ := List.append_of_mem member
  obtain ⟨early, moves, _⟩ := course.split_at
  exact ⟨early.coherent, moves⟩

end NfcHost
