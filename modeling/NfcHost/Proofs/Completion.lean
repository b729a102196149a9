/-
How often the outcome of an operation is reported.

The outcome of a reset, of a start of discovery and of a release is waited for in a few
stages, and only an accepted call leads into them.  A success leaves them, so nothing more is
told of the operation until it is asked for again, except that a reset tells of responses
that come in later.  A setback does not leave them: the session goes on waiting, so further
setbacks may be told, and a success after them.
-/

import NfcHost.Proofs.Telling

namespace NfcHost

def Call.operation : Call → Operation
  | reset _ => .reset
  | discover => .discover
  | deactivate => .deactivate
  | dump => .dump
  | continueDump => .dump
  | process => .none

def Record.Accepts (record : Record) (operation : Operation) : Prop :=
  record.deed.call.operation = operation ∧ record.deed.outcome = .ok ()

/-! ### Ways into a stage -/

def Stage.advances : List (Stage × Stage) :=
  [ (.initReset, .initInit),
    (.initInit, .initDone),
    (.discoverMap, .discover),
    (.discover, .discoverNotification),
    (.discoverNotification, .discoverActivated),
    (.deactivate, .deactivateResponse),
    (.deactivateResponse, .discoverNotification) ]

def Operation.openings : List (Operation × Stage) :=
  [(.reset, .initReset), (.discover, .discoverMap), (.deactivate, .deactivate)]

/-- How a call changes the stage. -/
inductive Deed.Shifts (deed : Deed) (before after : Stage) : Prop
  | kept (same : after = before)
  | away (listed : after ∈ [.none, .dump, .dumpResponse])
  | advanced (listed : (before, after) ∈ Stage.advances)
  | opened (listed : (deed.call.operation, after) ∈ Operation.openings)
      (accepted : deed.outcome = .ok ())

def Operation.Guards (operation : Operation) (stages : List Stage) : Prop :=
  (∀ step ∈ Stage.advances, step.2 ∈ stages → step.1 ∈ stages) ∧
    (∀ opening ∈ openings, opening.2 ∈ stages → opening.1 = operation) ∧
    ∀ stage ∈ stages, stage ∉ [.none, .dump, .dumpResponse]

instance (operation : Operation) (stages : List Stage) : Decidable (operation.Guards stages) :=
  inferInstanceAs (Decidable (_ ∧ _ ∧ _))

theorem Deed.Shifts.accepts {deed : Deed} {before after : Stage} {operation : Operation}
    {stages : List Stage} (shifts : deed.Shifts before after) (guards : operation.Guards stages)
    (entered : after ∈ stages) :
    before ∈ stages ∨ (deed.call.operation = operation ∧ deed.outcome = .ok ()) := by
  obtain ⟨closed, opens, inside⟩ := guards
  cases shifts with
  | kept same => exact .inl (same ▸ entered)
  | away listed => exact absurd listed (inside after entered)
  | advanced listed => exact .inl (closed _ listed entered)
  | opened listed accepted => exact .inr ⟨opens _ listed entered, accepted⟩

namespace Standing.Move

variable {plan : DiscoveryPlan} {standing after : Standing} {deed : Deed}

theorem shifts (move : standing.Move plan deed after) :
    deed.Shifts standing.stage after.stage := by
  cases move with
  | resetBlocked kind fault => exact .away (.head _)
  | resetUnsent kind posted => exact .away (.head _)
  | resetSent kind posted => exact .opened (.head _) rfl
  | refused barred => exact .kept rfl
  | discoverUnsent stage posted => exact .kept rfl
  | discoverSent stage posted => exact .opened (.tail _ (.head _)) rfl
  | deactivateUnsent stage posted => exact .kept rfl
  | deactivateSent stage posted => exact .opened (.tail _ (.tail _ (.head _))) rfl
  | dumpUnstarted stage unready => exact .kept rfl
  | dumpUnsent stage held idle posted => exact .away (.tail _ (.head _))
  | dumpSent stage held idle posted => exact .away (.tail _ (.tail _ (.head _)))
  | continueRefused stage unready => exact .kept rfl
  | continueAlready stage held awaiting => exact .away (.tail _ (.tail _ (.head _)))
  | continueUnsent stage held due inside posted => exact .kept rfl
  | continueSent stage held due inside posted => exact .away (.tail _ (.tail _ (.head _)))
  | silent fault => exact .kept rfl
  | @heard message payload _ _ _ reaction =>
      have advance (first second : Stage) (stage : standing.stage = first)
          (listed : (first, second) ∈ Stage.advances) :
          (standing.stage, second) ∈ Stage.advances := by
        rw [stage]
        exact listed
      generalize standing.event message payload = event at reaction
      cases reaction with
      | reset takes stage posted =>
          exact .advanced (advance .initReset .initInit stage (by decide))
      | init takes stage => exact .advanced (advance .initInit .initDone stage (by decide))
      | discoverMap takes stage posted =>
          exact .advanced (advance .discoverMap .discover stage (by decide))
      | discover takes stage =>
          exact .advanced (advance .discover .discoverNotification stage (by decide))
      | activated activation takes stage =>
          exact .advanced (advance .discoverNotification .discoverActivated stage (by decide))
      | deactivate takes stage =>
          exact .advanced (advance .deactivate .deactivateResponse stage (by decide))
      | deactivated deactivation takes stage =>
          exact .advanced (advance .deactivateResponse .discoverNotification stage (by decide))
      | reply takes stage held taken => exact .away (.tail _ (.head _))
      | left leaves => exact .kept rfl

theorem stage_of_discover (move : standing.Move plan deed after)
    (asked : deed.call.operation = .discover) (accepted : deed.outcome = .ok ()) :
    standing.stage = .initDone ∧ after.stage = .discoverMap := by
  cases move with
  | discoverSent stage posted => exact ⟨stage, rfl⟩
  | refused barred => cases accepted
  | discoverUnsent stage posted => cases accepted
  | _ => cases asked

end Standing.Move

/-! ### Waiting for an outcome -/

namespace Topic

def outcomes : List Topic :=
  [reset, discover, deactivated]

def waits : Topic → List Stage
  | reset => [.initReset, .initInit]
  | discover => [.discoverMap, .discover]
  | deactivated => [.deactivate, .deactivateResponse]
  | detected => []
  | dumped => []

variable {topic : Topic}

theorem guards_waits (known : topic ∈ outcomes) : topic.operation.Guards topic.waits := by
  revert known
  cases topic <;> decide

theorem waits_of_stages (known : topic ∈ outcomes) {stage : Stage} (place : stage ∈ topic.stages) :
    stage ∈ topic.waits ∨ topic = .reset := by
  revert known place
  cases topic <;> cases stage <;> decide

theorem step_leaves (known : topic ∈ outcomes) :
    topic.step.1 ∈ topic.waits ∧ topic.step.2 ∉ topic.waits := by
  revert known
  cases topic <;> decide

end Topic

namespace Record.Telling

variable {plan : DiscoveryPlan} {record : Record} {notice : Notice}

theorem pairwise (telling : record.Telling plan) (relation : Notice → Notice → Prop) :
    record.deed.notices.Pairwise relation := by
  rcases telling.nil_or_singleton with told | ⟨notice, told⟩ <;> rw [told]
  · exact .nil
  · exact List.pairwise_singleton relation notice

theorem waits_of_setback (telling : record.Telling plan) (member : notice ∈ record.deed.notices)
    (failed : notice.setback? ≠ none) :
    record.before.stage ∈ notice.topic.waits ↔ record.after.stage ∈ notice.topic.waits := by
  rcases telling.left_of_mem member failed with stays | lapse
  · rw [stays]
  · cases lapse with
    | initUnsent stage posted told left =>
        rw [told] at member
        rw [List.mem_singleton.mp member, stage, left]
        exact iff_of_true (.head _) (.tail _ (.head _))
    | discoverUnsent stage posted told left =>
        rw [told] at member
        rw [List.mem_singleton.mp member, stage, left]
        exact iff_of_true (.head _) (.tail _ (.head _))
    | replyUnsound stage heard unsound held told left =>
        rw [told] at member
        rw [List.mem_singleton.mp member]
        exact iff_of_false nofun nofun

end Record.Telling

/-! ### Stretches of a run -/

def reports (topic : Topic) (records : List Record) : List Notice :=
  records.flatMap fun record => record.deed.notices.filter fun notice => notice.topic = topic

/-- A success is reported once, and after it only setbacks of a reset. -/
def SettlesOnce (topic : Topic) (records : List Record) : Prop :=
  (reports topic records).Pairwise fun first later =>
    first.setback? = none → topic = .reset ∧ later.setback? ≠ none

namespace Course

variable {plan : DiscoveryPlan} {standing last : Standing} {records : List Record} {topic : Topic}

/-- Once nothing is waited for, only setbacks of a reset are reported. -/
theorem setback_of_ended (course : Course plan standing records last) (coherent : Coherent standing)
    (known : topic ∈ Topic.outcomes) (ended : standing.stage ∉ topic.waits)
    (calm : ∀ record ∈ records, ¬record.Accepts topic.operation) :
    ∀ notice ∈ reports topic records, topic = .reset ∧ notice.setback? ≠ none := by
  induction course with
  | nil standing => exact nofun
  | @cons record rest last moves tail ih =>
      intro notice member
      rcases List.mem_append.mp member with now | later
      · obtain ⟨told, same⟩ := List.mem_filter.mp now
        have telling := Record.telling_of_move moves coherent
        cases of_decide_eq_true same
        constructor
        · exact (Topic.waits_of_stages known (telling.of_mem told).1).resolve_left ended
        · intro succeeds
          have left := (Topic.step_leaves known).1
          rw [telling.step_of_mem told succeeds] at left
          exact ended left
      · refine ih (coherent.of_move moves) (fun entered => ?_)
          (fun record member => calm record (.tail _ member)) notice later
        rcases moves.shifts.accepts (Topic.guards_waits known) entered with before | accepts
        · exact ended before
        · exact calm record (.head _) accepts

theorem settlesOnce (course : Course plan standing records last) (coherent : Coherent standing)
    (known : topic ∈ Topic.outcomes)
    (calm : ∀ record ∈ records, ¬record.Accepts topic.operation) : SettlesOnce topic records := by
  induction course with
  | nil standing => exact .nil
  | @cons record rest last moves tail ih =>
      have telling := Record.telling_of_move moves coherent
      have after := coherent.of_move moves
      have calm : ∀ record ∈ rest, ¬record.Accepts topic.operation :=
        fun record member => calm record (.tail _ member)
      -- One record tells at most one thing, so only a success of it bears on the rest.
      refine List.pairwise_append.mpr ⟨(telling.pairwise _).filter _, ih after calm, ?_⟩
      intro first now later told succeeds
      obtain ⟨first, same⟩ := List.mem_filter.mp now
      cases of_decide_eq_true same
      have ended := (Topic.step_leaves known).2
      rw [telling.step_of_mem first succeeds] at ended
      exact tail.setback_of_ended after known ended calm later told

theorem not_discover_of_calm (course : Course plan standing records last)
    (away : standing.stage ∉ Topic.reset.stages)
    (calm : ∀ record ∈ records, ¬record.Accepts .reset) :
    ∀ record ∈ records, ¬record.Accepts .discover := by
  induction course with
  | nil standing => exact fun record member => nomatch member
  | @cons record rest last moves tail ih =>
      refine List.forall_mem_cons.mpr ⟨?_, ih (fun entered => ?_)
        (fun record member => calm record (.tail _ member))⟩
      · rintro ⟨asked, accepted⟩
        rw [(moves.stage_of_discover asked accepted).1] at away
        exact away (by decide)
      · have guards : Operation.reset.Guards Topic.reset.stages := by decide
        rcases moves.shifts.accepts guards entered with before | accepts
        · exact away before
        · exact calm record (.head _) accepts

theorem stretch_after {past stretch future : List Record} {accepted : Record}
    (course : Course plan {} (past ++ accepted :: (stretch ++ future)) last) :
    accepted.Moves plan ∧ Coherent accepted.after ∧
      ∃ middle, Course plan accepted.after stretch middle := by
  obtain ⟨early, moves, rest⟩ := course.split_at
  obtain ⟨middle, stretched, _⟩ := rest.split
  exact ⟨moves, early.coherent.of_move moves, middle, stretched⟩

end Course

structure ReportsOutcomes (records : List Record) : Prop where
  resets : ∀ past accepted stretch future, records = past ++ accepted :: (stretch ++ future) →
    accepted.Accepts .reset → (∀ record ∈ stretch, ¬record.Accepts .reset) →
      SettlesOnce .reset stretch
  discovers : ∀ past accepted stretch future, records = past ++ accepted :: (stretch ++ future) →
    accepted.Accepts .discover → (∀ record ∈ stretch, ¬record.Accepts .reset) →
      SettlesOnce .discover stretch
  releases : ∀ past accepted stretch future, records = past ++ accepted :: (stretch ++ future) →
    accepted.Accepts .deactivate → (∀ record ∈ stretch, ¬record.Accepts .deactivate) →
      SettlesOnce .deactivated stretch
  waits : ∀ record ∈ records, ∀ notice ∈ record.deed.notices, notice.setback? ≠ none →
    (record.before.stage ∈ notice.topic.waits ↔ record.after.stage ∈ notice.topic.waits)

theorem Course.reportsOutcomes {plan : DiscoveryPlan} {records : List Record} {last : Standing}
    (course : Course plan {} records last) : ReportsOutcomes records where
  resets past accepted stretch future shown _ calm := by
    subst shown
    obtain ⟨_, coherent, _, stretched⟩ := course.stretch_after
    exact stretched.settlesOnce coherent (by decide) calm
  discovers past accepted stretch future shown accepts calm := by
    subst shown
    obtain ⟨moves, coherent, _, stretched⟩ := course.stretch_after
    -- A discovery needs a finished reset, and the stretch has none.
    have away : accepted.after.stage ∉ Topic.reset.stages := by
      rw [(moves.stage_of_discover accepts.1 accepts.2).2]
      decide
    exact stretched.settlesOnce coherent (by decide) (stretched.not_discover_of_calm away calm)
  releases past accepted stretch future shown _ calm := by
    subst shown
    obtain ⟨_, coherent, _, stretched⟩ := course.stretch_after
    exact stretched.settlesOnce coherent (by decide) calm
  waits record member notice told failed := by
    obtain ⟨coherent, move⟩ := course.move_of_mem member
    exact (Record.telling_of_move move coherent).waits_of_setback told failed

namespace Session

variable {σ : Type} [Link σ]

/-- In every run the success of an operation is reported once.  A setback does not end it. -/
theorem outcomes_reported (link : σ) (threshold : Threshold) (plan : DiscoveryPlan)
    (turns : List (Turn σ)) : ReportsOutcomes (history link threshold plan turns) := by
  obtain ⟨last, course⟩ := history_course link threshold plan turns
  exact course.reportsOutcomes

open Bench

/-- Every operation is refused by the controller once before it is granted. -/
def secondThoughts : List (Turn QueueLink) :=
  [ ⟨id, .reset .keepConfig⟩,
    ⟨.push (resetResponse .failed), .process⟩,
    ⟨.push (resetResponse .ok), .process⟩,
    ⟨.push (initResponse .ok), .process⟩,
    ⟨id, .discover⟩,
    ⟨.push (discoverMapResponse .failed), .process⟩,
    ⟨.push (discoverMapResponse .ok), .process⟩,
    ⟨.push (discoverResponse .ok), .process⟩,
    ⟨.push (activated [0x04, 0x01, 0x02, 0x03, 0x04, 0x05, 0x06] none), .process⟩,
    ⟨id, .deactivate⟩,
    ⟨.push (deactivateResponse .failed), .process⟩,
    ⟨.push (deactivateResponse .ok), .process⟩,
    ⟨.push (deactivated 0x03 0x00), .process⟩ ]

/-- A setback was reported and a success after it, though nothing was called for between. -/
def SucceedsAfterSetback (topic : Topic) (records : List Record) : Prop :=
  ∃ past accepted stretch future setback success,
    records = past ++ accepted :: (stretch ++ future) ∧ accepted.Accepts topic.operation ∧
      (∀ record ∈ stretch, record.deed.call = .process) ∧
      reports topic stretch = [setback, success] ∧
      setback.setback? = some .failed ∧ success.setback? = none

theorem successes_after_setbacks :
    SucceedsAfterSetback .reset (history ({} : QueueLink) none .standard secondThoughts) ∧
      SucceedsAfterSetback .discover (history ({} : QueueLink) none .standard secondThoughts) ∧
      SucceedsAfterSetback .deactivated
        (history ({} : QueueLink) none .standard secondThoughts) := by
  have cut {records : List Record} (place : Nat) {record : Record}
      (found : records[place]? = some record) :
      records = records.take place ++ record ::
        ((records.drop (place + 1)).take 3 ++ (records.drop (place + 1)).drop 3) := by
    obtain ⟨inside, same⟩ := List.getElem?_eq_some_iff.mp found
    rw [List.take_append_drop, ← same, ← List.drop_eq_getElem_cons, List.take_append_drop]
  have processes {stretch : List Record}
      (calls : stretch.map (·.deed.call) = List.replicate 3 Call.process) :
      ∀ record ∈ stretch, record.deed.call = .process := by
    intro record member
    have listed : record.deed.call ∈ stretch.map (·.deed.call) := List.mem_map_of_mem member
    rw [calls] at listed
    exact List.eq_of_mem_replicate listed
  exact ⟨⟨_, _, _, _, _, _, cut 0 rfl, ⟨rfl, rfl⟩, processes rfl, rfl, rfl, rfl⟩,
    ⟨_, _, _, _, _, _, cut 4 rfl, ⟨rfl, rfl⟩, processes rfl, rfl, rfl, rfl⟩,
    ⟨_, _, _, _, _, _, cut 9 rfl, ⟨rfl, rfl⟩, processes rfl, rfl, rfl, rfl⟩⟩

end Session
end NfcHost
