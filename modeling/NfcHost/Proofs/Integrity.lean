/-
The integrity of a session.

Whatever has happened, the parts of a session fit together between two calls.
Some branches of the operations are there only for a session whose parts do not;
`DeadEnd` lists them with the tests that lead there, and no call comes to one.
-/

import NfcHost.Proofs.Coherence

namespace NfcHost

/-- The tag cannot be asked for a chunk: it awaits a reply already, or the READ that is
due lies past the last block. -/
def Type2.Stuck (tag : Type2) : Prop :=
  tag.phase = .awaiting ∨ (tag.phase = .due ∧ lastRead < tag.cursor)

namespace Session

variable {σ : Type}

/-- How stage, operation and tag of a session fit together. -/
structure Intact (session : Session σ) : Prop where
  /-- The report of a release is dealt with within one call. -/
  stage : session.stage ≠ .deactivateNotification
  operation : session.operation = session.stage.operation
  holds : session.tag ≠ none →
    session.stage = .discoverActivated ∨ session.stage = .dump ∨ session.stage = .dumpResponse
  reads : session.stage = .dump ∨ session.stage = .dumpResponse →
    ∃ tag, session.tag = some (.type2 tag)
  untouched : session.stage = .discoverActivated → ∀ tag, session.tag = some (.type2 tag) →
    tag.phase = .idle ∧ tag.cursor = 0
  awaiting : session.stage = .dumpResponse → ∀ tag, session.tag = some (.type2 tag) →
    tag.phase = .awaiting
  resting : session.stage = .dump → ∀ tag, session.tag = some (.type2 tag) →
    tag.phase ≠ .awaiting
  aligned : ∀ tag, session.tag = some (.type2 tag) → Type2.Aligned tag.cursor

/-- The branches that only a session in disorder would take, each with the tests that
lead there. -/
inductive DeadEnd (session : Session σ) : Call → Prop
  | refusedStart {tag : Type2} {setback : Setback} (stage : session.stage = .discoverActivated)
      (held : session.tag = some (.type2 tag)) (refused : tag.startDump.1 = .error setback) :
      DeadEnd session .dump
  | stuckStart {tag ready : Type2} (stage : session.stage = .discoverActivated)
      (held : session.tag = some (.type2 tag)) (started : tag.startDump = (.ok (), ready))
      (stuck : ready.Stuck) : DeadEnd session .dump
  | untagged (stage : session.stage = .dump) (bare : session.tag = none) :
      DeadEnd session .continueDump
  | stuck {tag : Type2} (stage : session.stage = .dump) (held : session.tag = some (.type2 tag))
      (stuck : tag.Stuck) : DeadEnd session .continueDump

theorem intact_of_coherent {session : Session σ} (coherent : Coherent session.standing) :
    session.Intact := by
  have own : session.operation = session.stage.operation := coherent.operation
  have holds : session.stage.Holds session.tag := coherent.tag
  constructor
  · intro stage
    rw [stage] at holds
    exact holds
  · exact own
  · intro held
    cases stage : session.stage with
    | discoverActivated => exact .inl rfl
    | dump => exact .inr (.inl rfl)
    | dumpResponse => exact .inr (.inr rfl)
    | deactivateNotification =>
        rw [stage] at holds
        exact holds.elim
    | _ =>
        rw [stage] at holds
        exact absurd holds held
  · rintro (stage | stage) <;> rw [stage] at holds <;> cases held : session.tag with
    | none =>
        rw [held] at holds
        exact holds.elim
    | some tag =>
        cases tag with
        | type2 tag => exact ⟨tag, rfl⟩
        | mifare activation =>
            rw [held] at holds
            exact holds.elim
  · intro stage tag held
    rw [stage, held] at holds
    exact holds
  · intro stage tag held
    rw [stage, held] at holds
    exact holds.1
  · intro stage tag held
    rw [stage, held] at holds
    exact holds.1
  · intro tag held
    rw [held] at holds
    cases stage : session.stage with
    | discoverActivated =>
        rw [stage] at holds
        exact .inl holds.2
    | dump =>
        rw [stage] at holds
        exact holds.2
    | dumpResponse =>
        rw [stage] at holds
        exact holds.2
    | _ =>
        rw [stage] at holds
        cases holds

namespace Intact

variable {session : Session σ}

theorem not_stuck (intact : session.Intact) (stage : session.stage = .dump) {tag : Type2}
    (held : session.tag = some (.type2 tag)) : ¬tag.Stuck := by
  rintro (awaiting | ⟨_, beyond⟩)
  · exact intact.resting stage tag held awaiting
  · exact UInt8.not_lt.mpr (intact.aligned tag held).le_lastRead beyond

theorem startDump_eq (intact : session.Intact) (stage : session.stage = .discoverActivated)
    {tag : Type2} (held : session.tag = some (.type2 tag)) :
    tag.startDump = (.ok (), { tag with cursor := 0, phase := .due }) :=
  tag.startDump_of_idle (intact.untouched stage tag held).1

theorem not_deadEnd (intact : session.Intact) (call : Call) : ¬session.DeadEnd call := by
  intro dead
  cases dead with
  | refusedStart stage held refused =>
      rw [intact.startDump_eq stage held] at refused
      cases refused
  | stuckStart stage held started stuck =>
      rw [intact.startDump_eq stage held] at started
      cases started
      rcases stuck with awaiting | ⟨_, beyond⟩
      · cases awaiting
      · have first : Type2.lastRead < 0 := beyond
        exact absurd first (by decide)
  | untagged stage bare =>
      obtain ⟨tag, held⟩ := intact.reads (.inl stage)
      cases bare.symm.trans held
  | stuck stage held stuck => exact intact.not_stuck stage held stuck

end Intact

/-- After every run a session is intact, and none of its calls comes to a dead end. -/
theorem run_intact [Link σ] (link : σ) (threshold : Threshold) (plan : DiscoveryPlan)
    (turns : List (Turn σ)) :
    ((fresh link threshold plan).run turns).Intact ∧
      ∀ call, ¬((fresh link threshold plan).run turns).DeadEnd call := by
  have coherent : Coherent ((fresh link threshold plan).run turns).standing :=
    run_invariant Coherent (fun _ _ _ _ coherent move => coherent.of_move move) turns
      (fresh link threshold plan) (.start {})
  have intact := intact_of_coherent coherent
  exact ⟨intact, intact.not_deadEnd⟩

end Session
end NfcHost
