/-
What becomes of data, by the connection it comes on.

READs go out on one connection, but a reply is taken from any.  Data that comes while a reply
is awaited is that reply; at any other time it changes nothing, and is told of only between
two chunks of a dump.  The connection plays no part in either.
-/

import NfcHost.Proofs.Dump

namespace NfcHost

theorem Type2.Replies.unique {tag next other : Type2} {reply : Bytes}
    {outcome result : Except Setback Chunk} (first : tag.Replies reply outcome next)
    (second : tag.Replies reply result other) : outcome = result ∧ next = other := by
  cases first with
  | bad unsound =>
      cases second with
      | bad _ => exact ⟨rfl, rfl⟩
      | more sound _ => exact absurd sound unsound
      | last sound _ => exact absurd sound unsound
  | more sound inside =>
      cases second with
      | bad unsound => exact absurd sound unsound
      | more _ _ => exact ⟨rfl, rfl⟩
      | last _ ended => exact absurd inside ended
  | last sound ended =>
      cases second with
      | bad unsound => exact absurd sound unsound
      | more _ inside => exact absurd inside ended
      | last _ _ => exact ⟨rfl, rfl⟩

namespace Record

inductive Feeds (record : Record) (payload : Bytes) : Prop
  | stray (resting : record.before.stage ≠ .dumpResponse) (unsent : record.deed.sent = [])
      (told : record.deed.notices =
        if record.before.operation = .dump then [.dumped (.error .failed)] else [])
      (left : record.after = record.before) : Feeds record payload
  | reply {tag next : Type2} {outcome : Except Setback Chunk}
      (stage : record.before.stage = .dumpResponse) (unsent : record.deed.sent = [])
      (held : record.before.tag = some (.type2 tag)) (awaiting : tag.phase = .awaiting)
      (replies : tag.Replies payload outcome next) (told : record.deed.notices = [.dumped outcome])
      (left : record.after = { record.before with stage := .dump, tag := some (.type2 next) }) :
      Feeds record payload

theorem feeds_of_move {plan : DiscoveryPlan} {standing after : Standing} {deed : Deed}
    {connection : UInt8} {payload : Bytes} (move : standing.Move plan deed after)
    (coherent : Coherent standing) (heard : deed.heard = some (.data connection, payload)) :
    (Record.mk standing deed after).Feeds payload := by
  -- Data leaves the controller as it is.
  have reaction : Standing.Reaction plan standing (.data connection payload) deed.sent
      deed.notices after := move.reaction heard
  by_cases stage : standing.stage = .dumpResponse
  · obtain ⟨_, _, _, _, _, moved, _⟩ := reply_of_data move coherent heard stage
    generalize unsent : deed.sent = sent at reaction
    generalize told : deed.notices = notices at reaction
    cases reaction with
    | reply takes _ held taken =>
        obtain ⟨reader, next, rfl, rfl, awaiting, replies⟩ := Tag.takeReply_replies taken
        exact .reply stage unsent held awaiting replies told rfl
    | left leaves => cases stage.symm.trans moved
  · obtain ⟨unsent, told, left⟩ := reaction.eq_of_leaves fun takes => stage takes.2.1
    exact .stray stage unsent told left

/-- Where the session stands decides what becomes of data. -/
theorem Feeds.unique {first second : Record} {payload : Bytes} (one : first.Feeds payload)
    (other : second.Feeds payload) (same : first.before = second.before) :
    first.after = second.after ∧ first.deed.notices = second.deed.notices ∧
      first.deed.sent = second.deed.sent := by
  cases one with
  | stray resting unsent told left =>
      cases other with
      | stray _ silent heard kept =>
          exact ⟨by rw [left, kept, same], by rw [told, heard, same], unsent.trans silent.symm⟩
      | reply stage _ _ _ _ _ _ => exact absurd (same ▸ stage) resting
  | reply stage unsent held awaiting replies told left =>
      cases other with
      | stray resting _ _ _ => exact absurd (same ▸ stage) resting
      | reply _ silent kept _ answers heard moved =>
          rw [same] at held
          cases held.symm.trans kept
          obtain ⟨rfl, rfl⟩ := replies.unique answers
          exact ⟨by rw [left, moved, same], told.trans heard.symm, unsent.trans silent.symm⟩

end Record

namespace Session

variable {σ : Type} [Link σ]

/-- In every run, data does the same on all connections. -/
theorem data_feeds (link other : σ) (threshold quiet : Threshold) (plan : DiscoveryPlan)
    (turns others : List (Turn σ)) :
    ∀ record ∈ history link threshold plan turns, ∀ connection payload,
      record.deed.heard = some (.data connection, payload) →
        record.Feeds payload ∧
        ∀ twin ∈ history other quiet plan others, ∀ elsewhere,
          twin.deed.heard = some (.data elsewhere, payload) → twin.before = record.before →
            twin.after = record.after ∧ twin.deed.notices = record.deed.notices ∧
              twin.deed.sent = record.deed.sent := by
  have feeds {link : σ} {threshold : Threshold} {turns : List (Turn σ)} {record : Record}
      (member : record ∈ history link threshold plan turns) {connection : UInt8} {payload : Bytes}
      (heard : record.deed.heard = some (.data connection, payload)) : record.Feeds payload := by
    obtain ⟨last, course⟩ := history_course link threshold plan turns
    obtain ⟨coherent, move⟩ := course.move_of_mem member
    exact Record.feeds_of_move move coherent heard
  intro record member connection payload heard
  refine ⟨feeds member heard, fun twin found elsewhere came same => ?_⟩
  exact (feeds found came).unique (feeds member heard) same

open Bench

def replyOn (connection : UInt8) : List (Turn QueueLink) :=
  wholeDump.take 8 ++ [⟨.push (data connection (readReply 0)), .process⟩]

/-- A reply on connection 3 delivers what the same reply on connection 0 delivers. -/
theorem data_feeds_elsewhere :
    ∃ record ∈ history ({} : QueueLink) none .standard (replyOn 3),
      ∃ twin ∈ history ({} : QueueLink) none .standard (replyOn 0),
        record.deed.heard = some (.data 3, readReply 0) ∧
          twin.deed.heard = some (.data 0, readReply 0) ∧ twin.after = record.after ∧
          twin.deed.notices = record.deed.notices := by
  have inside (connection : UInt8) :
      8 < (history ({} : QueueLink) none .standard (replyOn connection)).length :=
    Nat.lt_succ_self 8
  have member (connection : UInt8) := List.getElem_mem (inside connection)
  have alike := (data_feeds ({} : QueueLink) {} none none .standard (replyOn 3) (replyOn 0) _
    (member 3) 3 (readReply 0) rfl).2 _ (member 0) 0 rfl rfl
  exact ⟨_, member 3, _, member 0, rfl, rfl, alike.1, alike.2.1⟩

theorem chunk_from_elsewhere :
    ∃ past record, history ({} : QueueLink) none .standard (replyOn 3) = past ++ [record] ∧
      record.deed.heard = some (.data 3, readReply 0) ∧
      record.before.stage = .dumpResponse ∧ record.after.stage = .dump ∧
      record.deed.notices = [.dumped (.ok ⟨(readReply 0).take Type2.chunkSize, true⟩)] := by
  have cut := List.take_append_drop 8 (history ({} : QueueLink) none .standard (replyOn 3))
  exact ⟨_, _, cut.symm, rfl, rfl, rfl, rfl⟩

end Session
end NfcHost
