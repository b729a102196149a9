/-
What a session tells its application, and when.

Only a message that comes in is ever told of, in at most one notice, and that notice belongs
to the operation under way.  A success is told with the step it completes, and no such step
goes untold.  A setback leaves the session where it was, unless the next command could not
be sent or a tag's reply was bad; then the step is taken all the same.
-/

import NfcHost.Bench.Packets
import NfcHost.Link.Queue
import NfcHost.Proofs.Lockstep

namespace NfcHost

/-! ### Topics -/

inductive Topic where
  | reset
  | discover
  | detected
  | deactivated
  | dumped
deriving DecidableEq

def Notice.topic : Notice → Topic
  | reset _ => .reset
  | discover _ => .discover
  | detected _ => .detected
  | deactivated _ => .deactivated
  | dumped _ => .dumped

namespace Topic

def operation : Topic → Operation
  | reset => .reset
  | discover => .discover
  | detected => .discover
  | deactivated => .deactivate
  | dumped => .dump

def stages : Topic → List Stage
  | reset => [.initReset, .initInit, .initDone]
  | discover => [.discoverMap, .discover]
  | detected => [.discoverNotification, .discoverActivated]
  | deactivated => [.deactivate, .deactivateResponse]
  | dumped => [.dump, .dumpResponse]

def step : Topic → Stage × Stage
  | reset => (.initInit, .initDone)
  | discover => (.discover, .discoverNotification)
  | detected => (.discoverNotification, .discoverActivated)
  | deactivated => (.deactivateResponse, .discoverNotification)
  | dumped => (.dumpResponse, .dump)

/-- The topics whose success ends what the application waits for.  A dump has no such end:
its chunks are told one by one, and a bad reply takes the same step as a good one. -/
def endings : List Topic :=
  [reset, discover, detected, deactivated]

theorem operation_of_mem {topic : Topic} {stage : Stage} (member : stage ∈ topic.stages) :
    stage.operation = topic.operation := by
  cases topic <;> revert member <;> cases stage <;> decide

theorem mem_stages {topic : Topic} {stage : Stage} (own : stage.operation = topic.operation)
    (present : stage ≠ .deactivateNotification)
    (late : topic.operation = .discover →
      (topic = .detected ↔ stage = .discoverNotification ∨ stage = .discoverActivated)) :
    stage ∈ topic.stages := by
  revert own present late
  cases topic <;> cases stage <;> decide

theorem step_injective {first second : Topic} (same : first.step = second.step) :
    first = second := by
  cases first <;> cases second <;> first | rfl | cases same

end Topic

def Stage.Ends (first second : Stage) : Prop :=
  ∃ topic ∈ Topic.endings, topic.step = (first, second)

theorem Stage.not_ends_of_target (first second : Stage)
    (other : ∀ topic ∈ Topic.endings, topic.step.2 ≠ second) : ¬Ends first second :=
  fun ⟨topic, member, same⟩ => other topic member (congrArg Prod.snd same)

theorem Stage.not_ends_self (stage : Stage) : ¬stage.Ends stage := by
  rintro ⟨topic, -, same⟩
  cases topic <;> cases same

/-- An event that is not taken is told of in at most one notice: a setback of the operation
under way. -/
theorem Standing.complaints_cases {standing : Standing} (coherent : Coherent standing)
    (event : Event) :
    standing.complaints event = [] ∨
      ∃ notice setback, standing.complaints event = [notice] ∧
        notice.setback? = some setback ∧ standing.stage ∈ notice.topic.stages := by
  -- The only stage of an operation in which there is nothing to tell; no session rests in it.
  have present : standing.stage ≠ .deactivateNotification := by
    intro stage
    have holds := coherent.tag
    rw [stage] at holds
    exact holds.elim
  have own {operation : Operation} (current : standing.operation = operation) :
      standing.stage.operation = operation :=
    coherent.operation.symm.trans current
  by_cases control : event.IsControl
  · rw [complaints_control control]
    unfold controlComplaints
    split
    · exact .inl rfl
    · rename_i current
      split
      · exact .inr ⟨_, _, rfl, rfl, Topic.mem_stages (own current) present nofun⟩
      · exact .inl rfl
    · rename_i current
      split
      · rename_i late
        exact .inr ⟨_, _, rfl, rfl,
          Topic.mem_stages (own current) present fun _ => iff_of_true rfl late⟩
      · rename_i early
        exact .inr ⟨_, _, rfl, rfl,
          Topic.mem_stages (own current) present fun _ => iff_of_false nofun early⟩
    · rename_i current
      exact .inr ⟨_, _, rfl, rfl, Topic.mem_stages (own current) present nofun⟩
    · rename_i current
      exact .inr ⟨_, _, rfl, rfl, Topic.mem_stages (own current) present nofun⟩
  · cases event with
    | connectionCredits => exact .inl rfl
    | data connection payload =>
        change (if standing.operation = .dump then _ else _) = _ ∨ _
        by_cases current : standing.operation = .dump
        · exact .inr ⟨_, _, if_pos current, rfl, Topic.mem_stages (own current) present nofun⟩
        · exact .inl (if_neg current)
    | _ => exact absurd trivial control

/-! ### One call -/

namespace Record

def Stays (record : Record) : Prop :=
  record.after = { record.before with controller := record.after.controller }

structure Detects (record : Record) (detection : Detection) : Prop where
  announced : ∃ payload, record.deed.heard = some (.interfaceActivated, payload) ∧
    Activation.ofPayload payload = .ok detection.activation
  stored : record.after.controller.activation = some detection.activation
  family : detection.family = detection.activation.tagFamily?
  held : record.after.tag =
    detection.family.map fun family => Tag.ofFamily family detection.activation

/-- The setbacks that leave the session elsewhere. -/
inductive Lapse (plan : DiscoveryPlan) (record : Record) : Prop
  | initUnsent {fault : Fault} (stage : record.before.stage = .initReset)
      (posted : Posts True Command.init.encode (.error fault) record.deed.sent)
      (told : record.deed.notices = [.reset (.error fault.setback)])
      (left : record.after =
        { record.before with stage := .initInit, controller := record.after.controller }) :
      Lapse plan record
  | discoverUnsent {fault : Fault} (stage : record.before.stage = .discoverMap)
      (posted : Posts True (Command.discover plan.entries).encode (.error fault) record.deed.sent)
      (told : record.deed.notices = [.discover (.error fault.setback)])
      (left : record.after =
        { record.before with stage := .discover, controller := record.after.controller }) :
      Lapse plan record
  | replyUnsound {connection : UInt8} {payload : Bytes} {tag : Type2}
      (stage : record.before.stage = .dumpResponse)
      (heard : record.deed.heard = some (.data connection, payload))
      (unsound : ¬Type2.Sound payload)
      (held : record.before.tag = some (.type2 tag))
      (told : record.deed.notices = [.dumped (.error .failed)])
      (left : record.after =
        { record.before with
          stage := .dump
          tag := some (.type2 { tag with phase := .idle })
          controller := record.after.controller }) :
      Lapse plan record

private theorem announced_of_activated {standing : Standing} {message : Message} {payload : Bytes}
    {activation : Activation}
    (came : Event.activated (.ok activation) = standing.event message payload) :
    some (message, payload) = some (.interfaceActivated, payload) ∧
      Activation.ofPayload payload = .ok activation := by
  have named := congrArg Event.message came
  rw [Standing.event_message] at named
  subst named
  have accepted : (standing.event .interfaceActivated payload).fault? = none := by
    change (standing.event (Event.message (.activated (.ok activation))) payload).fault? = none
    rw [← came]
    rfl
  have read := Controller.receive_accepted accepted
  exact ⟨rfl, (Event.activated.inj (came.trans read)).symm⟩

inductive Telling (plan : DiscoveryPlan) (record : Record) : Prop
  | nothing (told : record.deed.notices = []) (short : ¬record.before.stage.Ends record.after.stage) :
      Telling plan record
  | success {notice : Notice} (call : record.deed.call = .process)
      (told : record.deed.notices = [notice]) (place : record.before.stage ∈ notice.topic.stages)
      (succeeds : notice.setback? = none)
      (step : notice.topic.step = (record.before.stage, record.after.stage))
      (detects : ∀ detection, notice = .detected (.ok detection) → record.Detects detection) :
      Telling plan record
  | setback {notice : Notice} {setback : Setback} (call : record.deed.call = .process)
      (told : record.deed.notices = [notice]) (place : record.before.stage ∈ notice.topic.stages)
      (failed : notice.setback? = some setback)
      (short : ¬record.before.stage.Ends record.after.stage)
      (left : record.Stays ∨ record.Lapse plan) :
      Telling plan record

variable {plan : DiscoveryPlan} {standing after : Standing}

private theorem telling_of_reaction {known : Standing} {event : Event} {message : Message}
    {payload : Bytes} {sent : List Transmission} {notices : List Notice}
    {result : Except Setback Unit}
    (reaction : Standing.Reaction plan known event sent notices after)
    (coherent : Coherent standing) (same : known = standing.hear message payload)
    (came : event = standing.event message payload) :
    (Record.mk standing
      { call := .process, heard := some (message, payload), sent := sent, notices := notices,
        outcome := result } after).Telling plan := by
  have heard := standing.hears message payload
  rw [← came, ← same] at heard
  subst same
  have place {present : Stage} {topic : Topic} (stage : standing.stage = present)
      (listed : present ∈ topic.stages) : standing.stage ∈ topic.stages := by
    rw [stage]
    exact listed
  have step {present next : Stage} {topic : Topic} (stage : standing.stage = present)
      (listed : topic.step = (present, next)) : topic.step = (standing.stage, next) := by
    rw [stage]
    exact listed
  cases reaction with
  | @reset report outcome _ takes stage posted =>
      -- The step is taken before the next command is sent, so also if that fails.
      have short := standing.stage.not_ends_of_target .initInit (by decide)
      cases outcome with
      | ok value => exact .nothing rfl short
      | error fault =>
          have granted := (heard.of_accepted (Standing.accepted_of_takes takes)).2
          exact .setback rfl rfl (place stage (.head _)) rfl short
            (.inr (.initUnsent stage (eq_true granted ▸ posted) rfl rfl))
  | init takes stage =>
      exact .success rfl rfl (place stage (.tail _ (.head _))) rfl (step stage rfl) nofun
  | @discoverMap outcome _ takes stage posted =>
      have short := standing.stage.not_ends_of_target .discover (by decide)
      cases outcome with
      | ok value => exact .nothing rfl short
      | error fault =>
          obtain ⟨present, kept⟩ := heard.of_accepted (Standing.accepted_of_takes takes)
          have granted := kept.trans (present .idle rfl)
          exact .setback rfl rfl (place stage (.head _)) rfl short
            (.inr (.discoverUnsent stage (eq_true granted ▸ posted) rfl rfl))
  | discover takes stage =>
      exact .success rfl rfl (place stage (.tail _ (.head _))) rfl (step stage rfl) nofun
  | activated activation takes stage =>
      refine .success rfl rfl (place stage (.head _)) rfl (step stage rfl) fun detection same => ?_
      cases same
      exact ⟨⟨payload, announced_of_activated came⟩, heard.activation, rfl, rfl⟩
  | deactivate takes stage =>
      exact .nothing rfl (standing.stage.not_ends_of_target .deactivateResponse (by decide))
  | deactivated deactivation takes stage =>
      exact .success rfl rfl (place stage (.tail _ (.head _))) rfl (step stage rfl) nofun
  | @reply connection content tag next lines outcome takes stage held taken =>
      obtain ⟨rfl, rfl⟩ := Standing.data_of_event came
      obtain ⟨reader, rest, rfl, rfl, awaiting, replies⟩ := Tag.takeReply_replies taken
      have listed : standing.stage ∈ Topic.dumped.stages := place stage (.tail _ (.head _))
      cases replies with
      | bad unsound =>
          exact .setback rfl rfl listed rfl (standing.stage.not_ends_of_target .dump (by decide))
            (.inr (.replyUnsound stage rfl unsound held rfl rfl))
      | more sound inside => exact .success rfl rfl listed rfl (step stage rfl) nofun
      | last sound ended => exact .success rfl rfl listed rfl (step stage rfl) nofun
  | left leaves =>
      have unmoved := standing.stage.not_ends_self
      rcases Standing.complaints_cases (coherent.hear message payload) event with
        told | ⟨notice, setback, told, failed, listed⟩
      · exact .nothing told unmoved
      · exact .setback rfl told listed failed unmoved (.inl rfl)

theorem telling_of_move {deed : Deed} (move : standing.Move plan deed after)
    (coherent : Coherent standing) : (Record.mk standing deed after).Telling plan := by
  have unmoved := standing.stage.not_ends_self
  have short := standing.stage.not_ends_of_target
  cases move with
  | resetBlocked kind fault => exact .nothing rfl (short .none (by decide))
  | resetUnsent kind posted => exact .nothing rfl (short .none (by decide))
  | resetSent kind posted => exact .nothing rfl (short .initReset (by decide))
  | refused barred => exact .nothing rfl unmoved
  | discoverUnsent stage posted => exact .nothing rfl unmoved
  | discoverSent stage posted => exact .nothing rfl (short .discoverMap (by decide))
  | deactivateUnsent stage posted => exact .nothing rfl unmoved
  | deactivateSent stage posted => exact .nothing rfl (short .deactivate (by decide))
  | dumpUnstarted stage unready => exact .nothing rfl unmoved
  | dumpUnsent stage held idle posted => exact .nothing rfl (short .dump (by decide))
  | dumpSent stage held idle posted => exact .nothing rfl (short .dumpResponse (by decide))
  | continueRefused stage unready => exact .nothing rfl unmoved
  | continueAlready stage held awaiting => exact .nothing rfl (short .dumpResponse (by decide))
  | continueUnsent stage held due inside posted => exact .nothing rfl unmoved
  | continueSent stage held due inside posted =>
      exact .nothing rfl (short .dumpResponse (by decide))
  | silent fault => exact .nothing rfl unmoved
  | heard reaction => exact telling_of_reaction reaction coherent rfl rfl

/-- What is told of a call fits what the call did. -/
structure Mirrors (plan : DiscoveryPlan) (record : Record) : Prop where
  quiet : record.deed.call ≠ .process → record.deed.notices = []
  single : record.deed.notices.length ≤ 1
  own : ∀ notice ∈ record.deed.notices, notice.topic.operation = record.before.operation
  idle : record.before.operation = .none → record.deed.notices = []
  taken : ∀ notice ∈ record.deed.notices, notice.setback? = none →
    notice.topic.step = (record.before.stage, record.after.stage)
  told : ∀ topic ∈ Topic.endings, topic.step = (record.before.stage, record.after.stage) →
    ∃ notice ∈ record.deed.notices, notice.topic = topic ∧ notice.setback? = none
  detects : ∀ detection, Notice.detected (.ok detection) ∈ record.deed.notices →
    record.Detects detection
  /-- A setback leaves the session as it was, but for three lapses. -/
  left : ∀ notice ∈ record.deed.notices, notice.setback? ≠ none →
    record.Stays ∨ record.Lapse plan

namespace Telling

variable {record : Record}

theorem of_mem (telling : record.Telling plan) {notice : Notice}
    (member : notice ∈ record.deed.notices) :
    record.before.stage ∈ notice.topic.stages ∧
      ((notice.setback? = none ∧
          notice.topic.step = (record.before.stage, record.after.stage)) ∨
        (notice.setback? ≠ none ∧ (record.Stays ∨ record.Lapse plan))) := by
  cases telling with
  | nothing told short =>
      rw [told] at member
      cases member
  | success call told place succeeds step detects =>
      rw [told] at member
      cases List.mem_singleton.mp member
      exact ⟨place, .inl ⟨succeeds, step⟩⟩
  | setback call told place failed short left =>
      rw [told] at member
      cases List.mem_singleton.mp member
      exact ⟨place, .inr ⟨by rw [failed]; exact nofun, left⟩⟩

theorem step_of_mem (telling : record.Telling plan) {notice : Notice}
    (member : notice ∈ record.deed.notices) (succeeds : notice.setback? = none) :
    notice.topic.step = (record.before.stage, record.after.stage) := by
  rcases (telling.of_mem member).2 with ⟨_, step⟩ | ⟨failed, _⟩
  · exact step
  · exact absurd succeeds failed

theorem left_of_mem (telling : record.Telling plan) {notice : Notice}
    (member : notice ∈ record.deed.notices) (failed : notice.setback? ≠ none) :
    record.Stays ∨ record.Lapse plan := by
  rcases (telling.of_mem member).2 with ⟨succeeds, _⟩ | ⟨_, left⟩
  · exact absurd succeeds failed
  · exact left

theorem nil_or_singleton (telling : record.Telling plan) :
    record.deed.notices = [] ∨ ∃ notice, record.deed.notices = [notice] := by
  cases telling with
  | nothing told short => exact .inl told
  | success call told place succeeds step detects => exact .inr ⟨_, told⟩
  | setback call told place failed short left => exact .inr ⟨_, told⟩

theorem mirrors (telling : record.Telling plan) (coherent : Coherent record.before) :
    record.Mirrors plan := by
  have own : ∀ notice ∈ record.deed.notices, notice.topic.operation = record.before.operation :=
    fun notice member =>
      (Topic.operation_of_mem (telling.of_mem member).1).symm.trans coherent.operation.symm
  constructor
  case quiet =>
    intro other
    cases telling with
    | nothing told short => exact told
    | success call _ _ _ _ _ => exact absurd call other
    | setback call _ _ _ _ _ => exact absurd call other
  case single =>
    rcases telling.nil_or_singleton with told | ⟨notice, told⟩ <;> rw [told]
    · exact Nat.zero_le 1
    · exact Nat.le_refl 1
  case own => exact own
  case idle =>
    intro none
    apply List.eq_nil_iff_forall_not_mem.mpr
    intro notice member
    have same := (own notice member).trans none
    cases topic : notice.topic <;> rw [topic] at same <;> cases same
  case taken => exact fun notice member => telling.step_of_mem member
  case told =>
    intro topic ending same
    cases telling with
    | nothing told short => exact absurd ⟨topic, ending, same⟩ short
    | success call told place succeeds step detects =>
        rw [told]
        exact ⟨_, .head _, Topic.step_injective (step.trans same.symm), succeeds⟩
    | setback call told place failed short left => exact absurd ⟨topic, ending, same⟩ short
  case detects =>
    intro detection member
    cases telling with
    | nothing told short =>
        rw [told] at member
        cases member
    | success call told place succeeds step detects =>
        rw [told] at member
        exact detects detection (List.mem_singleton.mp member).symm
    | setback call told place failed short left =>
        rw [told] at member
        cases List.mem_singleton.mp member
        cases failed
  case left => exact fun notice member => telling.left_of_mem member

end Telling
end Record

namespace Session

variable {σ : Type} [Link σ]

/-- In every run the notices fit what the session does. -/
theorem notices_mirror_steps (link : σ) (threshold : Threshold) (plan : DiscoveryPlan)
    (turns : List (Turn σ)) :
    ∀ record ∈ history link threshold plan turns, record.Mirrors plan := by
  intro record member
  obtain ⟨last, course⟩ := history_course link threshold plan turns
  obtain ⟨coherent, move⟩ := course.move_of_mem member
  exact (Record.telling_of_move move coherent).mirrors coherent

open Bench

def unsentInit : List (Turn QueueLink) :=
  [ ⟨id, .reset .keepConfig⟩,
    ⟨fun link => { link.push (resetResponse .ok) with writeFailures := 1 }, .process⟩ ]

/-- The setback is told, and the step taken all the same. -/
theorem notices_mirror_steps_unsent_init :
    ∃ record ∈ history ({} : QueueLink) none .standard unsentInit,
      record.deed.notices = [.reset (.error .failed)] ∧ record.after.stage = .initInit ∧
        record.Lapse .standard := by
  have cut := List.take_append_drop 1 (history ({} : QueueLink) none .standard unsentInit)
  refine ⟨_, by rw [← cut]; exact List.mem_append_right _ (.head _), rfl, rfl, ?_⟩
  have mirrors := notices_mirror_steps ({} : QueueLink) none .standard unsentInit _
    (by rw [← cut]; exact List.mem_append_right _ (.head _))
  rcases mirrors.left _ (.head _) nofun with stays | lapse
  · cases congrArg Standing.stage stays
  · exact lapse

end Session
end NfcHost
