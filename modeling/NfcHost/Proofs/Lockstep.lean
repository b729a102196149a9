/-
Session and controller agree while a reply is awaited.

Both follow the same messages, each with states of its own.  In five stages the
session waits for the very message that the controller waits for, and there the
phase is known.  No other message that a controller accepts in that phase moves
it, and every move into one of these stages arrives in its phase.
-/

import NfcHost.Link.Queue
import NfcHost.Proofs.Coherence

namespace NfcHost

def Stage.phase? : Stage → Option Phase
  | .initReset => some .down
  | .initInit => some .reset
  | .discover => some .idle
  | .discoverNotification => some .discovery
  | .deactivate => some .pollActive
  | _ => .none

theorem Stage.phase?_of_awaited? {stage : Stage} {message : Message} {phase : Phase}
    (own : stage.phase? = some phase) (awaited : stage.awaited? = some message) :
    message.phase? = some phase := by
  cases stage <;> cases own <;> cases awaited <;> rfl

/-- Whatever else the controller may accept in the phase of a stage leaves it there. -/
theorem Stage.nextPhase_of_unawaited {stage : Stage} {message : Message} {phase : Phase}
    (own : stage.phase? = some phase)
    (heard : ∀ other, message.phase? = some other → phase = other)
    (unawaited : stage.awaited? ≠ some message) : message.nextPhase phase = phase := by
  cases message with
  | data connection => rfl
  | connectionCredits => rfl
  | discoverMapResponse => rfl
  | deactivated => rfl
  | _ =>
      cases heard _ rfl
      cases stage
      all_goals cases own
      all_goals exact absurd rfl unawaited

namespace Standing

/-- Where a stage has a phase, the controller is in it. -/
def Lockstep (standing : Standing) : Prop :=
  ∀ phase, standing.stage.phase? = some phase → standing.controller.phase = phase

theorem accepted_of_takes {standing : Standing} {event : Event} (takes : standing.Takes event) :
    event.fault? = none := by
  by_cases control : event.IsControl
  · exact ((takes_control control standing).mp takes).2
  · cases event with
    | data connection payload => rfl
    | connectionCredits => rfl
    | _ => exact absurd trivial control

theorem takes_of_accepted {standing : Standing} (coherent : Coherent standing)
    {message : Message} {payload : Bytes} (awaited : standing.stage.awaited? = some message)
    (accepted : (standing.event message payload).fault? = none) :
    (standing.hear message payload).Takes (standing.event message payload) := by
  have control : (standing.event message payload).IsControl := by
    cases message with
    | data connection => cases stage : standing.stage <;> rw [stage] at awaited <;> cases awaited
    | connectionCredits => exact absurd awaited (Stage.awaited?_ne_connectionCredits _)
    | _ => trivial
  refine (takes_control control _).mpr ⟨⟨coherent.operation, ?_⟩, accepted⟩
  rw [event_message]
  exact awaited

namespace Lockstep

variable {plan : DiscoveryPlan} {standing after : Standing}

theorem of_left {message : Message} {payload : Bytes} (lock : standing.Lockstep)
    (coherent : Coherent standing)
    (leaves : ¬(standing.hear message payload).Takes (standing.event message payload)) :
    (standing.hear message payload).Lockstep := by
  intro phase own
  have present := lock phase own
  have heard := standing.hears message payload
  cases accepted : (standing.event message payload).fault? with
  | some fault =>
      rw [heard.of_refused accepted]
      exact present
  | none =>
      obtain ⟨came, next⟩ := heard.of_accepted accepted
      rw [event_message, present] at came next
      rw [next]
      refine Stage.nextPhase_of_unawaited own came fun awaited => leaves ?_
      exact takes_of_accepted coherent awaited accepted

theorem of_taken {before : Phase} {event : Event} {sent : List Transmission}
    {notices : List Notice} (reaction : Reaction plan standing event sent notices after)
    (takes : standing.Takes event)
    (came : ∀ phase, event.message.phase? = some phase → before = phase)
    (next : standing.controller.phase = event.message.nextPhase before) : after.Lockstep := by
  intro phase own
  cases reaction with
  | reset _ _ _ =>
      cases own
      exact next
  | init _ _ => cases own
  | discoverMap _ _ _ =>
      cases own
      exact next.trans (came _ rfl)
  | discover _ _ =>
      cases own
      exact next
  | activated _ _ _ => cases own
  | deactivate _ _ => cases own
  | deactivated _ _ _ =>
      cases own
      exact next.trans (came _ rfl)
  | reply _ _ _ _ => cases own
  | left leaves => exact absurd takes leaves

theorem of_move {deed : Deed} (move : standing.Move plan deed after) (coherent : Coherent standing)
    (lock : standing.Lockstep) : after.Lockstep := by
  cases move with
  | resetBlocked kind fault => exact nofun
  | resetUnsent kind posted => exact nofun
  | resetSent kind posted => exact fun _ own => Option.some.inj own
  | refused barred => exact lock
  | discoverUnsent stage posted => exact lock
  | discoverSent stage posted => exact nofun
  | deactivateUnsent stage posted => exact lock
  | deactivateSent stage posted => exact fun _ own => posted.of_ok.1.trans (Option.some.inj own)
  | dumpUnstarted stage unready => exact lock
  | dumpUnsent stage held idle posted => exact nofun
  | dumpSent stage held idle posted => exact nofun
  | continueRefused stage unready => exact lock
  | continueAlready stage held awaiting => exact nofun
  | continueUnsent stage held due inside posted => exact lock
  | continueSent stage held due inside posted => exact nofun
  | silent fault => exact lock
  | @heard message payload _ _ _ reaction =>
      by_cases takes : (standing.hear message payload).Takes (standing.event message payload)
      · have heard := standing.hears message payload
        obtain ⟨came, next⟩ := heard.of_accepted (accepted_of_takes takes)
        exact of_taken reaction takes came next
      · obtain ⟨_, _, same⟩ := reaction.eq_of_leaves takes
        rw [same]
        exact lock.of_left coherent takes

theorem event_eq_reading (lock : standing.Lockstep) {message : Message} {phase : Phase}
    (own : standing.stage.phase? = some phase) (awaited : standing.stage.awaited? = some message)
    (payload : Bytes) : standing.event message payload = message.reading payload := by
  apply Controller.receive_reading payload
  intro other expected
  cases (Stage.phase?_of_awaited? own awaited).symm.trans expected
  exact lock phase own

/-- In lockstep, a notice of an awaited message speaks of a refusal only if the
message does, or if the link refused a packet. -/
theorem rejected_notice {message : Message} {payload : Bytes} {phase : Phase}
    {sent : List Transmission} {notices : List Notice} (lock : standing.Lockstep)
    (own : standing.stage.phase? = some phase) (awaited : standing.stage.awaited? = some message)
    (reaction : Reaction plan (standing.hear message payload) (standing.event message payload)
      sent notices after)
    {notice : Notice} (told : notice ∈ notices) (refused : notice.setback? = some .rejected) :
    (message.IsResponse ∧ SaysRejected payload) ∨
      ∃ transmission ∈ sent, ∃ fault, transmission.report = .error fault ∧
        fault.setback = .rejected := by
  by_cases takes : (standing.hear message payload).Takes (standing.event message payload)
  · right
    obtain ⟨_, next⟩ := (standing.hears message payload).of_accepted (accepted_of_takes takes)
    generalize standing.event message payload = event at reaction next takes
    generalize known : standing.hear message payload = heard at reaction next takes
    have stage : heard.stage = standing.stage := by rw [← known]; rfl
    cases reaction with
    | @reset report outcome sent _ _ posted =>
        cases outcome with
        | ok value => cases told
        | error fault =>
            cases List.mem_singleton.mp told
            have refused : fault.setback = .rejected := Option.some.inj refused
            cases posted with
            | refused barred => exact absurd next barred
            | unfit _ failed => cases failed
            | @written transmission _ _ _ came =>
                refine ⟨transmission, List.mem_singleton_self _, fault, ?_, refused⟩
                exact Transmission.report_of_rejected came.symm refused
    | discoverMap _ mapping _ =>
        rw [← stage, mapping] at own
        cases own
    | deactivate _ _ => cases told
    | reply _ reading _ _ =>
        rw [← stage, reading] at own
        cases own
    | left leaves => exact absurd takes leaves
    | _ =>
        cases List.mem_singleton.mp told
        cases refused
  · left
    obtain ⟨_, same, _⟩ := reaction.eq_of_leaves takes
    rw [same] at told
    obtain ⟨fault, failed, rejecting⟩ := fault_of_rejected_complaint told refused
    rw [lock.event_eq_reading own awaited] at failed
    exact Message.reading_refuses failed rejecting

end Lockstep
end Standing

namespace Session

variable {σ : Type} [Link σ]

theorem packet?_of_heard? {session : Session σ} {call : Call} {message : Message}
    {payload : Bytes} (heard : session.heard? call = some (message, payload)) :
    session.host.packet? = some (message, payload) := by
  cases call with
  | process => exact heard
  | _ => cases heard

/-- In every run, session and controller are in lockstep.  An awaited message is
then never refused for the phase it comes in, and its notice speaks of a refusal
only if the status byte does, provided that the link itself refuses nothing. -/
theorem steps_lockstep (link : σ) (threshold : Threshold) (plan : DiscoveryPlan)
    (turns : List (Turn σ)) (step : Step σ)
    (made : step ∈ (fresh link threshold plan).steps turns) :
    (step.before.standing.Lockstep ∧ step.after.standing.Lockstep) ∧
    ∀ message payload phase, step.heard? = some (message, payload) →
      step.before.stage.awaited? = some message → step.before.stage.phase? = some phase →
      step.before.host.process.1 = .ok (message.reading payload) ∧
      (Link.NeverRejects σ → ∀ notice ∈ step.notices, notice.setback? = some .rejected →
        message.IsResponse ∧ SaysRejected payload) := by
  obtain ⟨⟨_, lock⟩, _, lockAfter⟩ :=
    steps_invariant (fun standing => Coherent standing ∧ standing.Lockstep)
      (fun _ _ _ _ kept move => ⟨kept.1.of_move move, kept.2.of_move move kept.1⟩)
      turns (fresh link threshold plan) ⟨.start {}, nofun⟩ step made
  refine ⟨⟨lock, lockAfter⟩, ?_⟩
  intro message payload phase heard awaited own
  constructor
  · rw [(step.before.host.process_of_packet?_some (packet?_of_heard? heard)).1]
    exact congrArg Except.ok (lock.event_eq_reading own awaited payload)
  · intro honest notice told refused
    obtain ⟨path, taken, move⟩ := step.before.perform_moves step.call
    rcases lock.rejected_notice own awaited (move.reaction heard) told refused with
      said | ⟨transmission, member, fault, reported, rejecting⟩
    · exact said
    · obtain ⟨written, report⟩ := taken.write_of_mem member
      exact absurd rejecting (honest _ written fault (report.trans reported))

theorem queue_neverRejects : Link.NeverRejects QueueLink := by
  intro bytes link fault failed
  change (link.write bytes).1 = _ at failed
  unfold QueueLink.write at failed
  split at failed
  · cases failed
    decide
  · dsimp only at failed
    split at failed <;> cases failed

/-- A controller that refuses to be reset is told of as such, by its status byte. -/
theorem steps_lockstep_refused_reset :
    ∃ step ∈ (fresh ({} : QueueLink) none .standard).steps
      [⟨id, .reset .keepConfig⟩, ⟨.push [0x40, 0x00, 0x03, 0x01, 0x10, 0x00], .process⟩],
      step.notices = [.reset (.error .rejected)] ∧ SaysRejected [0x01, 0x10, 0x00] := by
  refine ⟨_, .tail _ (.head _), rfl, ?_⟩
  have spoken := steps_lockstep ({} : QueueLink) none .standard
    [⟨id, .reset .keepConfig⟩, ⟨.push [0x40, 0x00, 0x03, 0x01, 0x10, 0x00], .process⟩] _
    (.tail _ (.head _))
  exact ((spoken.2 .resetResponse [0x01, 0x10, 0x00] .down rfl rfl rfl).2 queue_neverRejects
    (.reset (.error .rejected)) (.head _) rfl).2

end Session
end NfcHost
