/-
At most one command is outstanding.

A course is read as a sequence of marks: a reset that is asked for, a reply that
is accepted, a packet that is written whole.  A ledger goes through the marks
with the packet that is still owed an answer, and refuses a second one.  The
invariant is that the packet owed is one that the stage waits to be answered;
`outstanding_answered` draws the conclusion for two packets in a row.
-/

import NfcHost.Proofs.Run

namespace NfcHost

inductive Mark where
  | reset
  | accepted (message : Message) (payload : Bytes)
  | wrote (frame : Bytes)

def Message.Follows (message : Message) (frame : Bytes) : Prop :=
  match message with
  | .resetResponse => ∃ kind, (Command.reset kind).encode = .ok frame
  | .initResponse => Command.init.encode = .ok frame
  | .discoverMapResponse => ∃ maps, (Command.discoverMap maps).encode = .ok frame
  | .discoverResponse => ∃ entries, (Command.discover entries).encode = .ok frame
  | .deactivateResponse =>
      ∃ deactivationType, (Command.deactivate deactivationType).encode = .ok frame
  | .data _ => ∃ block, Type2.readFrame block = frame
  | _ => False

/-- The message answers the packet, and a response says that the command was
carried out. -/
def Message.Answers (message : Message) (payload frame : Bytes) : Prop :=
  message.Follows frame ∧ (message.IsResponse → SaysOk payload)

namespace Record

def accepted? (record : Record) : Option (Message × Bytes) :=
  record.deed.heard.filter fun (message, payload) =>
    (record.before.hear message payload).Takes (record.before.event message payload)

/-- The marks of a record.  A reset comes before what it writes, and so does a
reply. -/
def marks (record : Record) : List Mark :=
  (match record.deed.call with
    | .reset _ => [.reset]
    | _ => []) ++
  (match record.accepted? with
    | some (message, payload) => [.accepted message payload]
    | none => []) ++
  (wholeFrames record.deed.sent).map .wrote

end Record

/-! ### Ledgers -/

/-- Goes through marks with the packet that is owed an answer, if there is one. -/
inductive Ledger : Option Bytes → List Mark → Option Bytes → Prop
  | nil (owed : Option Bytes) : Ledger owed [] owed
  | reset {owed last : Option Bytes} {rest : List Mark} (tail : Ledger none rest last) :
      Ledger owed (.reset :: rest) last
  | answered {frame : Bytes} {message : Message} {payload : Bytes} {last : Option Bytes}
      {rest : List Mark} (answers : message.Answers payload frame)
      (tail : Ledger none rest last) :
      Ledger (some frame) (.accepted message payload :: rest) last
  | unowed {message : Message} {payload : Bytes} {last : Option Bytes} {rest : List Mark}
      (tail : Ledger none rest last) : Ledger none (.accepted message payload :: rest) last
  | wrote {frame : Bytes} {last : Option Bytes} {rest : List Mark}
      (tail : Ledger (some frame) rest last) : Ledger none (.wrote frame :: rest) last

namespace Ledger

variable {owed middle last : Option Bytes} {before after : List Mark}

theorem append (left : Ledger owed before middle) (right : Ledger middle after last) :
    Ledger owed (before ++ after) last := by
  induction left with
  | nil => exact right
  | reset _ ih => exact .reset (ih right)
  | answered answers _ ih => exact .answered answers (ih right)
  | unowed _ ih => exact .unowed (ih right)
  | wrote _ ih => exact .wrote (ih right)

theorem split (whole : Ledger owed (before ++ after) last) :
    ∃ middle, Ledger owed before middle ∧ Ledger middle after last := by
  induction before generalizing owed with
  | nil => exact ⟨owed, .nil owed, whole⟩
  | cons mark before ih =>
      cases whole with
      | reset tail =>
          obtain ⟨middle, left, right⟩ := ih tail
          exact ⟨middle, .reset left, right⟩
      | answered answers tail =>
          obtain ⟨middle, left, right⟩ := ih tail
          exact ⟨middle, .answered answers left, right⟩
      | unowed tail =>
          obtain ⟨middle, left, right⟩ := ih tail
          exact ⟨middle, .unowed left, right⟩
      | wrote tail =>
          obtain ⟨middle, left, right⟩ := ih tail
          exact ⟨middle, .wrote left, right⟩

theorem answered_of_settled {frame : Bytes} {between : List Mark}
    (course : Ledger (some frame) between none) (kept : Mark.reset ∉ between) :
    ∃ message payload, Mark.accepted message payload ∈ between ∧
      message.Answers payload frame := by
  cases course with
  | reset tail => exact absurd List.mem_cons_self kept
  | answered answers tail => exact ⟨_, _, List.mem_cons_self, answers⟩

theorem answered_between {first second : Bytes} {past between future : List Mark}
    (course : Ledger owed (past ++ .wrote first :: (between ++ .wrote second :: future)) last)
    (kept : Mark.reset ∉ between) :
    ∃ message payload, Mark.accepted message payload ∈ between ∧
      message.Answers payload first := by
  obtain ⟨_, _, fromFirst⟩ := course.split
  cases fromFirst with
  | wrote tail =>
      obtain ⟨settled, during, fromSecond⟩ := tail.split
      cases fromSecond with
      | wrote _ => exact during.answered_of_settled kept

theorem of_posts {permitted : Prop} {encoded : Except Fault Bytes}
    {outcome : Except Fault Unit} {sent : List Transmission}
    (posted : Posts permitted encoded outcome sent) :
    ∃ owed, Ledger none ((wholeFrames sent).map .wrote) owed ∧
      ∀ frame, owed = some frame → outcome = .ok () ∧ encoded = .ok frame := by
  cases outcome with
  | error fault =>
      refine ⟨none, ?_, fun _ absent => nomatch absent⟩
      rw [posted.wholeFrames_of_error]
      exact .nil none
  | ok value =>
      obtain ⟨frame, fits, written⟩ := posted.wholeFrames_of_ok
      refine ⟨some frame, ?_, fun other same => ⟨rfl, ?_⟩⟩
      · rw [written]
        exact .wrote (.nil _)
      · cases same
        exact fits

end Ledger

/-! ### What a stage expects -/

def Stage.Expects (stage : Stage) (frame : Bytes) : Prop :=
  (∃ message, stage.awaited? = some message ∧ message.Follows frame) ∨
    (stage = .dumpResponse ∧ ∃ block, Type2.readFrame block = frame)

/-- If a packet is owed an answer, the stage waits for it. -/
def Owes (stage : Stage) (owed : Option Bytes) : Prop :=
  ∀ frame, owed = some frame → stage.Expects frame

theorem Owes.none (stage : Stage) : Owes stage none :=
  fun _ absent => nomatch absent

def Call.Granted (call : Call) (stage : Stage) : Prop :=
  match call with
  | .reset _ => False
  | .process => False
  | call => call.Permitted stage

theorem Owes.eq_none {stage : Stage} {owed : Option Bytes} (owes : Owes stage owed) {call : Call}
    (granted : call.Granted stage) : owed = .none := by
  have quiet : stage.awaited? = .none ∧ stage ≠ .dumpResponse := by
    cases call with
    | reset kind => exact granted.elim
    | process => exact granted.elim
    | deactivate => rcases granted with rfl | rfl <;> decide
    | _ =>
        cases granted
        decide
  cases owed with
  | none => rfl
  | some frame =>
      rcases owes frame rfl with ⟨message, awaited, _⟩ | ⟨reading, _⟩
      · cases quiet.1.symm.trans awaited
      · exact absurd reading quiet.2

namespace Standing

theorem answers_of_takes {standing : Standing} {message : Message} {payload frame : Bytes}
    (takes : (standing.hear message payload).Takes (standing.event message payload))
    (expected : standing.stage.Expects frame) : message.Answers payload frame := by
  by_cases control : (standing.event message payload).IsControl
  · obtain ⟨⟨_, awaited⟩, accepted⟩ := (takes_control control _).mp takes
    rw [event, Controller.receive_message] at awaited
    rcases expected with ⟨other, same, follows⟩ | ⟨reading, _⟩
    · cases same.symm.trans awaited
      refine ⟨follows, fun responds => ?_⟩
      rw [event, Controller.receive_accepted accepted] at accepted
      exact Message.reading_saysOk responds accepted
    · have stage : (standing.hear message payload).stage = .dumpResponse := reading
      rw [stage] at awaited
      cases awaited
  · cases message with
    | data connection =>
        have reading : standing.stage = .dumpResponse := takes.2.1
        rcases expected with ⟨_, awaited, _⟩ | ⟨_, read⟩
        · rw [reading] at awaited
          cases awaited
        · exact ⟨read, fun responds => responds.elim⟩
    | connectionCredits => exact absurd takes.1.2 (Stage.awaited?_ne_connectionCredits _)
    | _ => exact absurd trivial control

end Standing

/-! ### Moves and courses -/

namespace Record

variable {plan : DiscoveryPlan} {standing after : Standing} {deed : Deed}

theorem marks_of_unheard (unheard : deed.heard = none) (other : ∀ kind, deed.call ≠ .reset kind) :
    (Record.mk standing deed after).marks = (wholeFrames deed.sent).map .wrote := by
  unfold marks accepted?
  rw [unheard]
  cases call : deed.call with
  | reset kind => exact absurd call (other kind)
  | _ => rfl

theorem ledger_of_reaction {event : Event} {sent : List Transmission} {notices : List Notice}
    (reaction : Standing.Reaction plan standing event sent notices after)
    (takes : standing.Takes event) :
    ∃ owed, Ledger none ((wholeFrames sent).map .wrote) owed ∧ Owes after.stage owed := by
  cases reaction with
  | reset _ _ posted =>
      obtain ⟨owed, ledger, only⟩ := Ledger.of_posts posted
      refine ⟨owed, ledger, fun frame written => ?_⟩
      exact .inl ⟨.initResponse, rfl, (only frame written).2⟩
  | discoverMap _ _ posted =>
      obtain ⟨owed, ledger, only⟩ := Ledger.of_posts posted
      refine ⟨owed, ledger, fun frame written => ?_⟩
      exact .inl ⟨.discoverResponse, rfl, _, (only frame written).2⟩
  | left leaves => exact absurd takes leaves
  | _ => exact ⟨none, .nil none, .none _⟩

private theorem ledger_of_call {call : Call} {sent : List Transmission} {permitted : Prop}
    {encoded : Except Fault Bytes} {outcome : Except Fault Unit} {result : Except Setback Unit}
    {owed : Option Bytes} (granted : call.Granted standing.stage)
    (owes : Owes standing.stage owed) (posted : Posts permitted encoded outcome sent)
    (expected : ∀ frame, outcome = .ok () → encoded = .ok frame → after.stage.Expects frame) :
    ∃ next, Ledger owed
      (Record.mk standing { call := call, sent := sent, outcome := result } after).marks next ∧
        Owes after.stage next := by
  obtain ⟨next, ledger, only⟩ := Ledger.of_posts posted
  have other (kind : ResetKind) : call ≠ .reset kind := by
    intro same
    rw [same] at granted
    exact granted
  rw [marks_of_unheard rfl other, owes.eq_none granted]
  refine ⟨next, ledger, fun frame written => ?_⟩
  exact expected frame (only frame written).1 (only frame written).2

/-- Every move keeps the ledger, and the stage after it waits for what is owed. -/
theorem ledger_of_move (move : standing.Move plan deed after) {owed : Option Bytes}
    (owes : Owes standing.stage owed) :
    ∃ next, Ledger owed (Record.mk standing deed after).marks next ∧ Owes after.stage next := by
  cases move with
  | resetBlocked kind fault => exact ⟨none, .reset (.nil none), .none _⟩
  | resetUnsent kind posted =>
      obtain ⟨next, ledger, only⟩ := Ledger.of_posts posted
      refine ⟨next, .reset ledger, fun frame written => ?_⟩
      cases (only frame written).1
  | resetSent kind posted =>
      obtain ⟨next, ledger, only⟩ := Ledger.of_posts posted
      refine ⟨next, .reset ledger, fun frame written => ?_⟩
      exact .inl ⟨.resetResponse, rfl, kind, (only frame written).2⟩
  | @refused call barred =>
      refine ⟨owed, ?_, owes⟩
      cases call with
      | reset kind => exact absurd trivial barred
      | _ => exact .nil owed
  | discoverUnsent stage posted =>
      have granted : Call.discover.Granted standing.stage := stage
      apply ledger_of_call granted owes posted
      intro _ failed
      cases failed
  | discoverSent stage posted =>
      have granted : Call.discover.Granted standing.stage := stage
      apply ledger_of_call granted owes posted
      intro frame _ fits
      exact .inl ⟨.discoverMapResponse, rfl, _, fits⟩
  | deactivateUnsent stage posted =>
      have granted : Call.deactivate.Granted standing.stage := stage
      apply ledger_of_call granted owes posted
      intro _ failed
      cases failed
  | deactivateSent stage posted =>
      have granted : Call.deactivate.Granted standing.stage := stage
      apply ledger_of_call granted owes posted
      intro frame _ fits
      exact .inl ⟨.deactivateResponse, rfl, _, fits⟩
  | dumpUnstarted _ _ => exact ⟨owed, .nil owed, owes⟩
  | dumpUnsent stage _ _ posted =>
      have granted : Call.dump.Granted standing.stage := stage
      apply ledger_of_call granted owes posted
      intro _ failed
      cases failed
  | dumpSent stage _ _ posted =>
      have granted : Call.dump.Granted standing.stage := stage
      apply ledger_of_call granted owes posted
      intro frame _ fits
      exact .inr ⟨rfl, _, Except.ok.inj fits⟩
  | continueRefused _ _ => exact ⟨owed, .nil owed, owes⟩
  | continueAlready stage _ _ =>
      have granted : Call.continueDump.Granted standing.stage := stage
      rw [owes.eq_none granted]
      exact ⟨none, .nil none, .none _⟩
  | continueUnsent stage _ _ _ posted =>
      have granted : Call.continueDump.Granted standing.stage := stage
      apply ledger_of_call granted owes posted
      intro _ failed
      cases failed
  | continueSent stage _ _ _ posted =>
      have granted : Call.continueDump.Granted standing.stage := stage
      apply ledger_of_call granted owes posted
      intro frame _ fits
      exact .inr ⟨rfl, _, Except.ok.inj fits⟩
  | silent fault => exact ⟨owed, .nil owed, owes⟩
  | @heard message payload sent notices after reaction =>
      by_cases takes : (standing.hear message payload).Takes (standing.event message payload)
      · obtain ⟨next, ledger, nextOwes⟩ := ledger_of_reaction reaction takes
        refine ⟨next, ?_, nextOwes⟩
        have shown : (Record.mk standing
            { call := .process, heard := some (message, payload), sent := sent,
              notices := notices, outcome := .ok () } after).marks =
            .accepted message payload :: (wholeFrames sent).map .wrote := by
          simp only [marks, accepted?, Option.filter, takes, decide_true, if_true,
            List.nil_append, List.singleton_append]
        rw [shown]
        cases owed with
        | none => exact .unowed ledger
        | some frame =>
            exact .answered (Standing.answers_of_takes takes (owes frame rfl)) ledger
      · obtain ⟨rfl, _, rfl⟩ := reaction.eq_of_leaves takes
        refine ⟨owed, ?_, owes⟩
        have shown : (Record.mk standing
            { call := .process, heard := some (message, payload), sent := [],
              notices := notices, outcome := .ok () } (standing.hear message payload)).marks =
            [] := by
          simp [marks, accepted?, Option.filter, takes, wholeFrames]
        rw [shown]
        exact .nil owed

theorem unsent_of_idle (move : standing.Move plan deed after) (idle : standing.stage = .none)
    (other : ∀ kind, deed.call ≠ .reset kind) : after.stage = .none ∧ deed.sent = [] := by
  cases move with
  | resetBlocked kind fault => exact absurd rfl (other kind)
  | resetUnsent kind posted => exact absurd rfl (other kind)
  | resetSent kind posted => exact absurd rfl (other kind)
  | refused barred => exact ⟨idle, rfl⟩
  | silent fault => exact ⟨idle, rfl⟩
  | @heard message payload _ _ _ reaction =>
      have unawaited : (standing.hear message payload).stage.awaited? = none := by
        rw [Standing.hear, idle]
        rfl
      have unread : (standing.hear message payload).stage ≠ .dumpResponse := by
        rw [Standing.hear, idle]
        decide
      obtain ⟨unsent, _, same⟩ :=
        reaction.eq_of_leaves (Standing.leaves_of_unawaited unawaited unread _)
      rw [same]
      exact ⟨idle, unsent⟩
  | discoverUnsent stage posted => cases idle.symm.trans stage
  | discoverSent stage posted => cases idle.symm.trans stage
  | deactivateUnsent stage posted => rcases stage with stage | stage <;> cases idle.symm.trans stage
  | deactivateSent stage posted => rcases stage with stage | stage <;> cases idle.symm.trans stage
  | dumpUnstarted stage _ => cases idle.symm.trans stage
  | dumpUnsent stage _ _ _ => cases idle.symm.trans stage
  | dumpSent stage _ _ _ => cases idle.symm.trans stage
  | continueRefused stage _ => cases idle.symm.trans stage
  | continueAlready stage _ _ => cases idle.symm.trans stage
  | continueUnsent stage _ _ _ _ => cases idle.symm.trans stage
  | continueSent stage _ _ _ _ => cases idle.symm.trans stage

end Record

namespace Course

variable {plan : DiscoveryPlan} {records : List Record} {after : Standing}

theorem ledger (course : Course plan {} records after) :
    ∃ owed, Ledger none (records.flatMap Record.marks) owed ∧ Owes after.stage owed := by
  refine course.invariant
    (fun past standing =>
      ∃ owed, Ledger none (past.flatMap Record.marks) owed ∧ Owes standing.stage owed)
    ?_ ⟨none, .nil none, .none _⟩
  rintro past record ⟨owed, soFar, owes⟩ moves
  obtain ⟨next, more, nextOwes⟩ := Record.ledger_of_move moves owes
  refine ⟨next, ?_, nextOwes⟩
  rw [List.flatMap_append, List.flatMap_singleton]
  exact soFar.append more

theorem unsent_of_no_reset (course : Course plan {} records after)
    (unreset : ∀ record ∈ records, ∀ kind, record.deed.call ≠ .reset kind) :
    after.stage = .none ∧ ∀ record ∈ records, record.deed.sent = [] := by
  refine course.invariant
    (fun past standing => (∀ record ∈ past, ∀ kind, record.deed.call ≠ .reset kind) →
      standing.stage = .none ∧ ∀ record ∈ past, record.deed.sent = [])
    ?_ (fun _ => ⟨rfl, fun _ member => nomatch member⟩) unreset
  intro past record soFar moves unreset
  obtain ⟨stage, unsent⟩ := soFar fun made member =>
    unreset made (List.mem_append_left _ member)
  have other := unreset record (List.mem_append_right _ (List.mem_singleton_self _))
  have quiet : record.after.stage = .none ∧ record.deed.sent = [] := by
    rcases record with ⟨before, deed, after⟩
    exact Record.unsent_of_idle moves stage other
  refine ⟨quiet.1, fun made member => ?_⟩
  rcases List.mem_append.mp member with earlier | last
  · exact unsent made earlier
  · rw [List.mem_singleton.mp last]
    exact quiet.2

end Course

namespace Session

variable {σ : Type} [Link σ]

/-- At most one packet is ever outstanding: between two packets that were written
whole, the session has accepted the answer to the first, unless a reset was asked
for.  Before the first reset nothing is written at all. -/
theorem outstanding_answered (link : σ) (threshold : Threshold) (plan : DiscoveryPlan)
    (turns : List (Turn σ)) :
    (∀ past first between second future,
      (history link threshold plan turns).flatMap Record.marks =
        past ++ .wrote first :: (between ++ .wrote second :: future) →
      Mark.reset ∉ between →
        ∃ message payload, Mark.accepted message payload ∈ between ∧
          message.Answers payload first) ∧
    ∀ past future, history link threshold plan turns = past ++ future →
      (∀ record ∈ past, ∀ kind, record.deed.call ≠ .reset kind) →
        ∀ record ∈ past, record.deed.sent = [] := by
  obtain ⟨after, course⟩ := history_course link threshold plan turns
  constructor
  · intro past first between second future shown kept
    obtain ⟨owed, ledger, _⟩ := course.ledger
    rw [shown] at ledger
    exact ledger.answered_between kept
  · intro past future shown unreset
    rw [shown] at course
    obtain ⟨middle, early, _⟩ := course.split
    exact (early.unsent_of_no_reset unreset).2

end Session
end NfcHost
