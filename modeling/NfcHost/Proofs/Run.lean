/-
Runs of a session.

In every turn an application makes one call, and anything may have happened on
the link meanwhile.  A record is what one call did, seen from the standings
before and after it; over a traced link a run leaves one record for each turn.
A course is a chain of records that are moves, and `records_course` says that
every run is one, so whatever is shown of courses holds of all runs.
-/

import NfcHost.Proofs.Move

namespace NfcHost

structure Turn (σ : Type) where
  meanwhile : σ → σ
  call : Call

def Turn.traced {σ : Type} (turn : Turn σ) : Turn (Traced σ) where
  meanwhile traced := { traced with link := turn.meanwhile traced.link }
  call := turn.call

/-- One call of a run, and the session it is made on. -/
structure Step (σ : Type) where
  before : Session σ
  call : Call

namespace Session

variable {σ : Type}

def meanwhile (session : Session σ) (change : σ → σ) : Session σ :=
  { session with
    host :=
      { session.host with
        channel := { session.host.channel with link := change session.host.channel.link } } }

variable [Link σ]

def steps : Session σ → List (Turn σ) → List (Step σ)
  | _, [] => []
  | session, turn :: rest =>
      ⟨session.meanwhile turn.meanwhile, turn.call⟩ ::
        ((session.meanwhile turn.meanwhile).after turn.call).steps rest

def run : Session σ → List (Turn σ) → Session σ
  | session, [] => session
  | session, turn :: rest => ((session.meanwhile turn.meanwhile).after turn.call).run rest

end Session

namespace Step

variable {σ : Type} [Link σ] (step : Step σ)

def after : Session σ :=
  step.before.after step.call

def outcome : Except Setback Unit :=
  (step.before.perform step.call).1

def notices : List Notice :=
  (step.before.perform step.call).2.1

def heard? : Option (Message × Bytes) :=
  step.before.heard? step.call

end Step

namespace Session

variable {σ : Type} [Link σ]

theorem steps_append (session : Session σ) (first second : List (Turn σ)) :
    session.steps (first ++ second) = session.steps first ++ (session.run first).steps second := by
  induction first generalizing session with
  | nil => rfl
  | cons turn rest ih => exact congrArg (_ :: ·) (ih _)

theorem run_append (session : Session σ) (first second : List (Turn σ)) :
    session.run (first ++ second) = (session.run first).run second := by
  induction first generalizing session with
  | nil => rfl
  | cons turn rest ih => exact ih _

/-- What every move keeps holds throughout a run. -/
theorem steps_invariant (kept : Standing → Prop)
    (step : ∀ plan standing deed after,
      kept standing → Standing.Move plan standing deed after → kept after)
    (turns : List (Turn σ)) (session : Session σ) (start : kept session.standing) :
    ∀ made ∈ session.steps turns, kept made.before.standing ∧ kept made.after.standing := by
  induction turns generalizing session with
  | nil => exact fun made member => nomatch member
  | cons turn rest ih =>
      have before : kept (session.meanwhile turn.meanwhile).standing := start
      obtain ⟨path, taken, move⟩ :=
        (session.meanwhile turn.meanwhile).perform_moves turn.call
      have after := step _ _ _ _ before move
      intro made member
      rcases List.mem_cons.mp member with rfl | later
      · exact ⟨before, after⟩
      · exact ih _ after made later

theorem run_invariant (kept : Standing → Prop)
    (step : ∀ plan standing deed after,
      kept standing → Standing.Move plan standing deed after → kept after)
    (turns : List (Turn σ)) (session : Session σ) (start : kept session.standing) :
    kept (session.run turns).standing := by
  induction turns generalizing session with
  | nil => exact start
  | cons turn rest ih =>
      have before : kept (session.meanwhile turn.meanwhile).standing := start
      obtain ⟨path, taken, move⟩ :=
        (session.meanwhile turn.meanwhile).perform_moves turn.call
      exact ih _ (step _ _ _ _ before move)

/-! ### The plan -/

theorem plan_sendNext (session : Session σ) (command : Command)
    (notice : Except Setback Unit → Notice) :
    (session.sendNext command notice).2.plan = session.plan := by
  unfold sendNext
  split <;> rfl

theorem plan_onEvent (session : Session σ) (event : Event) :
    (session.onEvent event).2.plan = session.plan := by
  unfold onEvent
  dsimp only
  split
  · rfl
  · unfold onData
    split
    · split
      rename_i awaited
      split at awaited <;> cases awaited <;> split <;> rfl
    · rfl
  · split
    · unfold onResetEvent
      split
      · exact plan_sendNext ..
      all_goals rfl
    · unfold onDiscoverEvent
      split
      · exact plan_sendNext ..
      all_goals rfl
    · unfold onDeactivateEvent
      split <;> rfl
    · rfl
    · rfl

theorem plan_after (session : Session σ) (call : Call) :
    (session.after call).plan = session.plan := by
  unfold after perform
  cases call with
  | reset kind =>
      unfold reset
      dsimp only
      split
      · rfl
      · split <;> rfl
  | discover =>
      unfold discover
      dsimp only
      split
      · split <;> rfl
      · rfl
  | deactivate =>
      unfold deactivate
      dsimp only
      split
      · split <;> rfl
      · rfl
  | dump =>
      unfold dump
      dsimp only
      split
      · split
        · rfl
        · split
          · rfl
          · split <;> rfl
      · rfl
  | continueDump =>
      unfold continueDump
      dsimp only
      split
      · split
        · rfl
        · split <;> rfl
      · rfl
  | process =>
      unfold process
      dsimp only
      split
      · rfl
      · exact plan_onEvent ..

theorem plan_steps (turns : List (Turn σ)) (session : Session σ) :
    ∀ made ∈ session.steps turns, made.before.plan = session.plan := by
  induction turns generalizing session with
  | nil => exact fun made member => nomatch member
  | cons turn rest ih =>
      intro made member
      rcases List.mem_cons.mp member with rfl | later
      · rfl
      · exact (ih _ made later).trans (plan_after _ _)

end Session

/-! ### Courses -/

/-- What one call did, and where the session stood before and after it. -/
structure Record where
  before : Standing
  deed : Deed
  after : Standing

def Record.Moves (plan : DiscoveryPlan) (record : Record) : Prop :=
  record.before.Move plan record.deed record.after

inductive Course (plan : DiscoveryPlan) : Standing → List Record → Standing → Prop
  | nil (standing : Standing) : Course plan standing [] standing
  | cons {record : Record} {rest : List Record} {last : Standing} (moves : record.Moves plan)
      (tail : Course plan record.after rest last) :
      Course plan record.before (record :: rest) last

namespace Course

variable {plan : DiscoveryPlan} {before after : Standing} {records : List Record}

theorem split {past future : List Record}
    (course : Course plan before (past ++ future) after) :
    ∃ middle, Course plan before past middle ∧ Course plan middle future after := by
  induction past generalizing before with
  | nil => exact ⟨before, .nil before, course⟩
  | cons record past ih =>
      cases course with
      | cons moves tail =>
          obtain ⟨middle, left, right⟩ := ih tail
          exact ⟨middle, .cons moves left, right⟩

theorem split_at {past future : List Record} {record : Record}
    (course : Course plan before (past ++ record :: future) after) :
    Course plan before past record.before ∧ record.Moves plan ∧
      Course plan record.after future after := by
  obtain ⟨middle, left, right⟩ := course.split
  cases right with
  | cons moves tail => exact ⟨left, moves, tail⟩

/-- What a move keeps, given all that came before it, holds at the end of a course. -/
theorem invariant (kept : List Record → Standing → Prop)
    (step : ∀ past record, kept past record.before → record.Moves plan →
      kept (past ++ [record]) record.after)
    (course : Course plan before records after) (start : kept [] before) :
    kept records after := by
  -- The induction runs along the course, so what came before has to vary.
  suffices general : ∀ past, kept past before → kept (past ++ records) after from general [] start
  clear start
  induction course with
  | nil standing =>
      intro past start
      rw [List.append_nil]
      exact start
  | @cons record rest last moves _ ih =>
      intro past start
      have next := ih (past ++ [record]) (step past record start moves)
      rw [List.append_assoc, List.singleton_append] at next
      exact next

end Course

/-! ### Runs as courses -/

namespace Step

variable {σ : Type} [Link σ]

/-- What was written, read off the path of the link. -/
def sent (step : Step (Traced σ)) : List Transmission :=
  transmissions (step.after.link.path.drop step.before.link.path.length)

def record (step : Step (Traced σ)) : Record where
  before := step.before.standing
  deed :=
    { call := step.call
      heard := step.heard?
      sent := step.sent
      notices := step.notices
      outcome := step.outcome }
  after := step.after.standing

theorem sent_of_path {step : Step (Traced σ)} {path : List Exchange}
    (taken : step.after.link.path = step.before.link.path ++ path) :
    step.sent = transmissions path := by
  rw [sent, taken, List.drop_left]

theorem record_moves (step : Step (Traced σ)) : step.record.Moves step.before.plan := by
  obtain ⟨path, taken, move⟩ := step.before.perform_moves step.call
  have sent : step.sent = transmissions path := sent_of_path (Traced.path_eq_append taken)
  rw [Record.Moves, record, sent]
  exact move

end Step

namespace Session

variable {σ : Type} [Link σ]

def records (session : Session (Traced σ)) (turns : List (Turn σ)) : List Record :=
  (session.steps (turns.map Turn.traced)).map Step.record

theorem records_course (turns : List (Turn σ)) (session : Session (Traced σ)) :
    ∃ after, Course session.plan session.standing (session.records turns) after := by
  induction turns generalizing session with
  | nil => exact ⟨session.standing, .nil _⟩
  | cons turn rest ih =>
      let made : Step (Traced σ) := ⟨session.meanwhile turn.traced.meanwhile, turn.call⟩
      have moves : made.record.Moves session.plan := made.record_moves
      obtain ⟨after, tail⟩ := ih made.after
      have samePlan : made.after.plan = session.plan :=
        (session.meanwhile turn.traced.meanwhile).plan_after turn.call
      rw [samePlan] at tail
      exact ⟨after, .cons moves tail⟩

def history (link : σ) (threshold : Threshold) (plan : DiscoveryPlan) (turns : List (Turn σ)) :
    List Record :=
  (fresh (⟨link, []⟩ : Traced σ) threshold plan).records turns

theorem history_course (link : σ) (threshold : Threshold) (plan : DiscoveryPlan)
    (turns : List (Turn σ)) :
    ∃ after, Course plan {} (history link threshold plan turns) after :=
  records_course turns (fresh (⟨link, []⟩ : Traced σ) threshold plan)

end Session
end NfcHost
