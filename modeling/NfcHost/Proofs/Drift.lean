/-
Where session and controller drift apart.

The controller follows every message that it accepts, also one that the session
has no use for.  Where the application may act, only two messages can be told
apart that way: the response to a start of discovery while the controller is
ready, and the response to a release while an endpoint is at hand.  A run stays
in step exactly as long as neither of them comes in, and then every command the
stage allows is accepted.
-/

import NfcHost.Proofs.Lockstep

namespace NfcHost

def Stage.Engaged (stage : Stage) : Prop :=
  stage = .discoverActivated ∨ stage = .dump ∨ stage = .dumpResponse

instance (stage : Stage) : Decidable stage.Engaged :=
  inferInstanceAs (Decidable (_ ∨ _ ∨ _))

theorem Stage.not_engaged (stage : Stage)
    (other : stage ∉ [.discoverActivated, .dump, .dumpResponse]) : ¬stage.Engaged := by
  rintro (rfl | rfl | rfl) <;> exact other (by decide)

def Stage.phases : Stage → List Phase
  | .none => [.down, .reset, .idle, .discovery, .pollActive]
  | .initReset => [.down]
  | .initInit => [.reset]
  | .initDone => [.idle]
  | .discoverMap => [.idle, .discovery, .pollActive]
  | .discover => [.idle]
  | .discoverNotification => [.discovery]
  | .discoverActivated => [.pollActive]
  | .deactivate => [.pollActive]
  | .deactivateResponse => [.discovery, .pollActive]
  | .deactivateNotification => []
  | .dump => [.pollActive]
  | .dumpResponse => [.pollActive]

/-- The messages that may alter a controller although the stage does not want them. -/
def Stage.exposed : Stage → List Message
  | .none =>
      [ .resetResponse, .initResponse, .discoverResponse, .interfaceActivated,
        .deactivateResponse, .deactivated ]
  | .discoverMap => [.discoverResponse, .interfaceActivated, .deactivateResponse, .deactivated]
  | .discoverNotification => [.deactivated]
  | .deactivateResponse => [.interfaceActivated, .deactivateResponse]
  | _ => []

/-- The message leads the controller away from a stage in which the application may
act. -/
def Stage.Loses (stage : Stage) (message : Message) : Prop :=
  (stage = .initDone ∧ message = .discoverResponse) ∨
    (stage.Engaged ∧ message = .deactivateResponse)

instance (stage : Stage) (message : Message) : Decidable (stage.Loses message) :=
  inferInstanceAs (Decidable (_ ∨ _))

theorem Stage.nextPhase_mem {stage : Stage} {phase : Phase} {message : Message}
    (within : phase ∈ stage.phases) (own : message.phase? = some phase)
    (unawaited : stage.awaited? ≠ some message) (kept : ¬stage.Loses message) :
    message.nextPhase phase ∈ stage.phases := by
  cases message <;> cases own <;> cases stage <;> revert within unawaited kept <;> decide

theorem Stage.mem_exposed {stage : Stage} {phase : Phase} {message : Message}
    (within : phase ∈ stage.phases) (own : message.phase? = some phase)
    (unawaited : stage.awaited? ≠ some message) (kept : ¬stage.Loses message)
    (harms : ¬message.Harmless) : message ∈ stage.exposed := by
  cases message with
  | discoverMapResponse => exact absurd trivial harms
  | _ => cases own <;> cases stage <;> revert within unawaited kept <;> decide

namespace Standing

/-- The message carries the response that leads the controller away. -/
def Derails (standing : Standing) (message : Message) (payload : Bytes) : Prop :=
  standing.stage.Loses message ∧ payload = [Status.ok.code]

theorem derails_of_accepted {standing : Standing} {message : Message} {payload : Bytes}
    (loses : standing.stage.Loses message)
    (accepted : (standing.event message payload).fault? = none) :
    standing.Derails message payload := by
  refine ⟨loses, Field.eq_of_acknowledged ?_⟩
  rw [event, Controller.receive_accepted accepted] at accepted
  have outcome {event : Except Fault Unit → Event}
      (passed : ∀ cause, (event (.error cause)).fault? = some cause)
      (accepted : (event (Field.acknowledged payload)).fault? = none) :
      Field.acknowledged payload = .ok () := by
    cases read : Field.acknowledged payload with
    | ok value => rfl
    | error cause =>
        rw [read, passed cause] at accepted
        cases accepted
  rcases loses with ⟨_, rfl⟩ | ⟨_, rfl⟩
  · exact outcome (fun _ => rfl) accepted
  · exact outcome (fun _ => rfl) accepted

theorem hear_of_derails {standing : Standing} {message : Message} {payload : Bytes} {phase : Phase}
    (derails : standing.Derails message payload) (own : message.phase? = some phase)
    (present : standing.controller.phase = phase) :
    (standing.hear message payload).controller.phase = .discovery := by
  have read : standing.event message payload = message.reading payload := by
    apply Controller.receive_reading payload
    intro other awaited
    cases own.symm.trans awaited
    exact present
  obtain ⟨loses, rfl⟩ := derails
  have heard := standing.hears message [Status.ok.code]
  rcases loses with ⟨_, rfl⟩ | ⟨_, rfl⟩
  · exact (heard.of_accepted (by rw [read]; rfl)).2
  · exact (heard.of_accepted (by rw [read]; rfl)).2

/-- What the application relies on where it may act: the controller is in the phase
that its commands need, and it knows the endpoint that is at hand. -/
structure InStep (standing : Standing) : Prop where
  ready : standing.stage = .initDone → standing.controller.phase = .idle
  engaged : standing.stage.Engaged → standing.controller.phase = .pollActive
  endpoint : standing.stage.Engaged → ∀ tag, standing.tag = some tag →
    standing.controller.activation = some tag.activation

structure OnTrack (standing : Standing) : Prop where
  coherent : Coherent standing
  phase : standing.controller.phase ∈ standing.stage.phases
  endpoint : standing.stage.Engaged → ∀ tag, standing.tag = some tag →
    standing.controller.activation = some tag.activation

namespace OnTrack

variable {plan : DiscoveryPlan} {standing after : Standing}

theorem inStep (track : standing.OnTrack) : standing.InStep := by
  refine ⟨fun ready => ?_, fun engaged => ?_, track.endpoint⟩
  · have within := track.phase
    rw [ready] at within
    exact List.mem_singleton.mp within
  · have within := track.phase
    rcases engaged with stage | stage | stage <;> rw [stage] at within <;>
      exact List.mem_singleton.mp within

theorem start : Standing.OnTrack {} :=
  ⟨.start {}, .head _, fun _ _ held => nomatch held⟩

/-- A message that is not taken and does not derail leaves the controller within the
phases of the stage, and alters it only if the stage is exposed to it. -/
theorem of_left {message : Message} {payload : Bytes} (track : standing.OnTrack)
    (leaves : ¬(standing.hear message payload).Takes (standing.event message payload))
    (kept : ¬standing.Derails message payload) :
    (standing.hear message payload).controller.phase ∈ standing.stage.phases ∧
      ((standing.hear message payload).controller = standing.controller ∨
        message ∈ standing.stage.exposed) := by
  have heard := standing.hears message payload
  cases accepted : (standing.event message payload).fault? with
  | some fault =>
      rw [heard.of_refused accepted]
      exact ⟨track.phase, .inl rfl⟩
  | none =>
      have unawaited : standing.stage.awaited? ≠ some message := fun awaited =>
        leaves (takes_of_accepted track.coherent awaited accepted)
      have unlost : ¬standing.stage.Loses message := fun loses =>
        kept (derails_of_accepted loses accepted)
      obtain ⟨came, next⟩ := heard.of_accepted accepted
      rw [event_message] at came next
      by_cases harmless : message.Harmless
      · rw [← event_message standing message payload] at harmless
        rw [heard.of_harmless harmless]
        exact ⟨track.phase, .inl rfl⟩
      · obtain ⟨phase, own⟩ := Message.phase?_of_harms harmless
        rw [← came phase own] at own
        rw [next]
        exact ⟨Stage.nextPhase_mem track.phase own unawaited unlost,
          .inr (Stage.mem_exposed track.phase own unawaited unlost harmless)⟩

theorem exposed_of_engaged {stage : Stage} (engaged : stage.Engaged) : stage.exposed = [] := by
  rcases engaged with rfl | rfl | rfl <;> rfl

theorem of_taken {before : Controller} {event : Event} {sent : List Transmission}
    {notices : List Notice} (reaction : Reaction plan standing event sent notices after)
    (takes : standing.Takes event) (heard : before.Hears event standing.controller)
    (coherent : Coherent after) (within : before.phase ∈ standing.stage.phases)
    (endpoint : standing.stage.Engaged → ∀ tag, standing.tag = some tag →
      before.activation = some tag.activation) : after.OnTrack := by
  obtain ⟨came, next⟩ := heard.of_accepted (accepted_of_takes takes)
  cases reaction with
  | reset _ _ _ =>
      exact ⟨coherent, by rw [next]; exact .head _,
        fun engaged => absurd engaged (Stage.not_engaged .initInit (by decide))⟩
  | init _ _ =>
      exact ⟨coherent, by rw [next]; exact .head _,
        fun engaged => absurd engaged (Stage.not_engaged .initDone (by decide))⟩
  | discoverMap _ _ _ =>
      exact ⟨coherent, by rw [next, came _ rfl]; exact .head _,
        fun engaged => absurd engaged (Stage.not_engaged .discover (by decide))⟩
  | discover _ _ =>
      exact ⟨coherent, by rw [next]; exact .head _,
        fun engaged => absurd engaged (Stage.not_engaged .discoverNotification (by decide))⟩
  | activated activation _ _ =>
      refine ⟨coherent, by rw [next]; exact .head _, fun _ tag held => ?_⟩
      rw [heard.activation]
      obtain ⟨family, _, rfl⟩ := Option.map_eq_some_iff.mp held
      cases family <;> rfl
  | deactivate _ _ =>
      exact ⟨coherent, by rw [next]; exact .head _,
        fun engaged => absurd engaged (Stage.not_engaged .deactivateResponse (by decide))⟩
  | deactivated _ _ _ =>
      exact ⟨coherent, by rw [next, came _ rfl]; exact .head _,
        fun engaged => absurd engaged (Stage.not_engaged .discoverNotification (by decide))⟩
  | reply _ stage held taken =>
      have same : standing.controller = before := heard.of_harmless trivial
      refine ⟨coherent, ?_, fun _ tag present => ?_⟩
      · rw [stage] at within
        rw [same]
        exact within
      · obtain ⟨reader, rest, rfl, rfl, _, replies⟩ := Tag.takeReply_replies taken
        cases present
        have known := endpoint (.inr (.inr stage)) _ held
        rw [same, known]
        cases replies <;> rfl
  | left leaves => exact absurd takes leaves

theorem of_move {deed : Deed} (track : standing.OnTrack) (move : standing.Move plan deed after)
    (kept : ∀ message payload, deed.heard = some (message, payload) →
      ¬standing.Derails message payload) : after.OnTrack := by
  have coherent := track.coherent.of_move move
  have within := track.phase
  cases move with
  | resetBlocked kind fault =>
      refine ⟨coherent, ?_, fun _ tag held => nomatch held⟩
      change standing.controller.phase ∈ Stage.none.phases
      cases standing.controller.phase <;> decide
  | resetUnsent kind posted => exact ⟨coherent, .head _, fun _ tag held => nomatch held⟩
  | resetSent kind posted => exact ⟨coherent, .head _, fun _ tag held => nomatch held⟩
  | refused barred => exact track
  | discoverUnsent stage posted => exact track
  | discoverSent stage posted =>
      have idle : standing.controller.phase = .idle := posted.of_ok.1
      refine ⟨coherent, ?_, fun engaged => absurd engaged (Stage.not_engaged .discoverMap (by decide))⟩
      rw [idle]
      exact .head _
  | deactivateUnsent stage posted => exact track
  | deactivateSent stage posted =>
      have active : standing.controller.phase = .pollActive := posted.of_ok.1
      refine ⟨coherent, ?_, fun engaged => absurd engaged (Stage.not_engaged .deactivate (by decide))⟩
      rw [active]
      exact .head _
  | dumpUnstarted stage unready => exact track
  | dumpUnsent stage held idle posted =>
      rw [stage] at within
      refine ⟨coherent, within, fun _ tag present => ?_⟩
      cases present
      have known := track.endpoint (.inl stage) _ held
      exact known
  | dumpSent stage held idle posted =>
      rw [stage] at within
      refine ⟨coherent, within, fun _ tag present => ?_⟩
      cases present
      have known := track.endpoint (.inl stage) _ held
      exact known
  | continueRefused stage unready => exact track
  | continueAlready stage held awaiting =>
      rw [stage] at within
      exact ⟨coherent, within, fun _ tag present => track.endpoint (.inr (.inl stage)) tag present⟩
  | continueUnsent stage held due inside posted => exact track
  | continueSent stage held due inside posted =>
      rw [stage] at within
      refine ⟨coherent, within, fun _ tag present => ?_⟩
      cases present
      have known := track.endpoint (.inr (.inl stage)) _ held
      exact known
  | silent fault => exact track
  | @heard message payload _ _ _ reaction =>
      have heard := standing.hears message payload
      by_cases takes : (standing.hear message payload).Takes (standing.event message payload)
      · exact of_taken reaction takes heard coherent within track.endpoint
      · obtain ⟨_, _, same⟩ := reaction.eq_of_leaves takes
        obtain ⟨inside, altered⟩ := track.of_left takes (kept message payload rfl)
        rw [same]
        refine ⟨same ▸ coherent, inside, fun engaged tag held => ?_⟩
        rcases altered with unaltered | exposed
        · rw [unaltered]
          exact track.endpoint engaged tag held
        · have engaged : standing.stage.Engaged := engaged
          rw [exposed_of_engaged engaged] at exposed
          cases exposed

theorem not_inStep_of_derails {deed : Deed} {message : Message} {payload : Bytes}
    (track : standing.OnTrack) (move : standing.Move plan deed after)
    (heard : deed.heard = some (message, payload)) (derails : standing.Derails message payload) :
    ¬after.InStep := by
  have reaction := move.reaction heard
  obtain ⟨own, quiet, engages⟩ : message.phase? = some standing.controller.phase ∧
      standing.stage.awaited? = none ∧ (standing.stage = .initDone ∨ standing.stage.Engaged) := by
    rcases derails.1 with ⟨stage, rfl⟩ | ⟨engaged, rfl⟩
    · exact ⟨by rw [track.inStep.ready stage]; rfl, by rw [stage]; rfl, .inl stage⟩
    · refine ⟨by rw [track.inStep.engaged engaged]; rfl, ?_, .inr engaged⟩
      rcases engaged with stage | stage | stage <;> rw [stage] <;> rfl
  have control : (standing.event message payload).IsControl := by
    rcases derails.1 with ⟨_, rfl⟩ | ⟨_, rfl⟩ <;> trivial
  have leaves : ¬(standing.hear message payload).Takes (standing.event message payload) := by
    intro takes
    obtain ⟨⟨_, awaited⟩, _⟩ := (takes_control control _).mp takes
    cases quiet.symm.trans awaited
  obtain ⟨_, _, same⟩ := reaction.eq_of_leaves leaves
  have lost := hear_of_derails derails own rfl
  intro inStep
  rw [same] at inStep
  rcases engages with stage | engaged
  · cases lost.symm.trans (inStep.ready stage)
  · cases lost.symm.trans (inStep.engaged engaged)

end OnTrack
end Standing
end NfcHost
