/-
Where a session stands, and what it does with an event.

A standing is a session without its link, its journal and its plan.  An event is
taken when it is the message that the stage awaits and was not refused, or data
for the tag that awaits a reply.  Any other event leaves the standing as it is;
`complaints` are the notices it gives.  `Reaction` lists all that can happen.
-/

import NfcHost.Proofs.Posting
import NfcHost.Session

namespace NfcHost

def Stage.operation : Stage → Operation
  | .none => .none
  | .initReset => .reset
  | .initInit => .reset
  | .initDone => .reset
  | .discoverMap => .discover
  | .discover => .discover
  | .discoverNotification => .discover
  | .discoverActivated => .discover
  | .deactivate => .deactivate
  | .deactivateResponse => .deactivate
  | .deactivateNotification => .deactivate
  | .dump => .dump
  | .dumpResponse => .dump

/-- The control message that a stage waits for. -/
def Stage.awaited? : Stage → Option Message
  | .initReset => some .resetResponse
  | .initInit => some .initResponse
  | .discoverMap => some .discoverMapResponse
  | .discover => some .discoverResponse
  | .discoverNotification => some .interfaceActivated
  | .deactivate => some .deactivateResponse
  | .deactivateResponse => some .deactivated
  | _ => .none

theorem Tag.takeReply_of_none {tag : Tag} {payload : Bytes}
    (ignored : (tag.takeReply payload).1 = none) : (tag.takeReply payload).2.1 = tag := by
  cases tag with
  | mifare activation => rfl
  | type2 tag =>
      change (tag.takeReply payload).1 = none at ignored
      change Tag.type2 (tag.takeReply payload).2.1 = _
      unfold Type2.takeReply at ignored ⊢
      cases phase : tag.phase with
      | awaiting =>
          rw [phase] at ignored
          dsimp only at ignored
          split at ignored
          · cases ignored
          · split at ignored <;> cases ignored
      | _ => rfl

structure Standing where
  stage : Stage := .none
  operation : Operation := .none
  tag : Option Tag := none
  controller : Controller := {}

theorem Stage.eq_of_awaited? {first second : Stage} {message : Message}
    (left : first.awaited? = some message) (right : second.awaited? = some message) :
    first = second := by
  cases first <;> cases left <;> cases second <;> cases right <;> rfl

theorem Stage.awaited?_of_reset {stage : Stage} {message : Message}
    (own : stage.operation = .reset) (awaited : stage.awaited? = some message) :
    (stage = .initReset ∧ message = .resetResponse) ∨
      (stage = .initInit ∧ message = .initResponse) := by
  cases stage <;> cases own <;> cases awaited <;> simp

theorem Stage.awaited?_of_discover {stage : Stage} {message : Message}
    (own : stage.operation = .discover) (awaited : stage.awaited? = some message) :
    (stage = .discoverMap ∧ message = .discoverMapResponse) ∨
      (stage = .discover ∧ message = .discoverResponse) ∨
      (stage = .discoverNotification ∧ message = .interfaceActivated) := by
  cases stage <;> cases own <;> cases awaited <;> simp

theorem Stage.awaited?_of_deactivate {stage : Stage} {message : Message}
    (own : stage.operation = .deactivate) (awaited : stage.awaited? = some message) :
    (stage = .deactivate ∧ message = .deactivateResponse) ∨
      (stage = .deactivateResponse ∧ message = .deactivated) := by
  cases stage <;> cases own <;> cases awaited <;> simp

theorem Stage.operation_of_awaited? {stage : Stage} {message : Message}
    (awaited : stage.awaited? = some message) :
    stage.operation = .reset ∨ stage.operation = .discover ∨ stage.operation = .deactivate := by
  cases stage <;> cases awaited <;> simp [operation]

theorem Stage.awaited?_ne_connectionCredits (stage : Stage) :
    stage.awaited? ≠ some .connectionCredits := by
  cases stage <;> simp [awaited?]

def Notice.setback? : Notice → Option Setback
  | .reset (.error setback) => some setback
  | .discover (.error setback) => some setback
  | .detected (.error setback) => some setback
  | .deactivated (.error setback) => some setback
  | .dumped (.error setback) => some setback
  | _ => none

/-- An event that belongs to an operation, so neither data nor credits. -/
def Event.IsControl : Event → Prop
  | .data _ _ => False
  | .connectionCredits => False
  | _ => True

namespace Standing

def Awaits (standing : Standing) (message : Message) : Prop :=
  standing.operation = standing.stage.operation ∧ standing.stage.awaited? = some message

instance (standing : Standing) (message : Message) : Decidable (standing.Awaits message) :=
  inferInstanceAs (Decidable (_ ∧ _))

/-- The event is the reply that the session waits for. -/
def Takes (standing : Standing) (event : Event) : Prop :=
  match event with
  | .data _ payload =>
      standing.operation = .dump ∧ standing.stage = .dumpResponse ∧
        (standing.tag.bind fun tag => (tag.takeReply payload).1).isSome
  | event => standing.Awaits event.message ∧ event.fault? = none

instance (standing : Standing) (event : Event) : Decidable (standing.Takes event) :=
  match event with
  | .data _ _ => inferInstanceAs (Decidable (_ ∧ _ ∧ _))
  | .reset _ => inferInstanceAs (Decidable (_ ∧ _))
  | .init _ => inferInstanceAs (Decidable (_ ∧ _))
  | .connectionCredits => inferInstanceAs (Decidable (_ ∧ _))
  | .discoverMap _ => inferInstanceAs (Decidable (_ ∧ _))
  | .discover _ => inferInstanceAs (Decidable (_ ∧ _))
  | .activated _ => inferInstanceAs (Decidable (_ ∧ _))
  | .deactivate _ => inferInstanceAs (Decidable (_ ∧ _))
  | .deactivated _ => inferInstanceAs (Decidable (_ ∧ _))

theorem takes_control {event : Event} (control : event.IsControl) (standing : Standing) :
    standing.Takes event ↔ standing.Awaits event.message ∧ event.fault? = none := by
  cases event <;> first | exact control.elim | rfl

theorem leaves_of_unawaited {standing : Standing} (unawaited : standing.stage.awaited? = none)
    (idle : standing.stage ≠ .dumpResponse) (event : Event) : ¬standing.Takes event := by
  intro takes
  by_cases control : event.IsControl
  · cases unawaited.symm.trans ((takes_control control standing).mp takes).1.2
  · cases event with
    | data connection payload => exact idle takes.2.1
    | connectionCredits => cases unawaited.symm.trans takes.1.2
    | _ => exact control trivial

def setbackOf (standing : Standing) (event : Event) : Setback :=
  if standing.Awaits event.message then (event.fault?.map Fault.setback).getD .failed
  else .failed

/-- The notices of a control event that is not taken.  Only a reset is silent about
messages of other operations, because they are late replies to what it gave up. -/
def controlComplaints (standing : Standing) (event : Event) : List Notice :=
  match standing.operation with
  | .none => []
  | .reset =>
      if event.message = .resetResponse ∨ event.message = .initResponse then
        [.reset (.error (standing.setbackOf event))]
      else
        []
  | .discover =>
      if standing.stage = .discoverNotification ∨ standing.stage = .discoverActivated then
        [.detected (.error (standing.setbackOf event))]
      else
        [.discover (.error (standing.setbackOf event))]
  | .deactivate => [.deactivated (.error (standing.setbackOf event))]
  | .dump => [.dumped (.error .failed)]

def complaints (standing : Standing) (event : Event) : List Notice :=
  match event with
  | .connectionCredits => []
  | .data _ _ => if standing.operation = .dump then [.dumped (.error .failed)] else []
  | event => standing.controlComplaints event

theorem complaints_control {event : Event} (control : event.IsControl) (standing : Standing) :
    standing.complaints event = standing.controlComplaints event := by
  cases event <;> first | exact control.elim | rfl

theorem setbackOf_of_fault {standing : Standing} {event : Event} {fault : Fault}
    (awaited : standing.Awaits event.message) (failed : event.fault? = some fault) :
    standing.setbackOf event = fault.setback := by
  rw [setbackOf, if_pos awaited, failed]
  rfl

theorem setbackOf_of_not_awaits {standing : Standing} {event : Event}
    (unawaited : ¬standing.Awaits event.message) : standing.setbackOf event = .failed :=
  if_neg unawaited

theorem fault_of_rejected_complaint {standing : Standing} {event : Event} {notice : Notice}
    (told : notice ∈ standing.complaints event) (refused : notice.setback? = some .rejected) :
    ∃ fault, event.fault? = some fault ∧ fault.setback = .rejected := by
  have own (same : standing.setbackOf event = .rejected) :
      ∃ fault, event.fault? = some fault ∧ fault.setback = .rejected := by
    unfold setbackOf at same
    split at same
    · cases failed : event.fault? with
      | none =>
          rw [failed] at same
          cases same
      | some fault =>
          rw [failed] at same
          exact ⟨fault, rfl, same⟩
    · cases same
  by_cases control : event.IsControl
  · rw [complaints_control control] at told
    unfold controlComplaints at told
    split at told
    · cases told
    · split at told
      · cases List.mem_singleton.mp told
        exact own (Option.some.inj refused)
      · cases told
    · split at told
      · cases List.mem_singleton.mp told
        exact own (Option.some.inj refused)
      · cases List.mem_singleton.mp told
        exact own (Option.some.inj refused)
    · cases List.mem_singleton.mp told
      exact own (Option.some.inj refused)
    · cases List.mem_singleton.mp told
      cases refused
  · cases event with
    | data connection payload =>
        change notice ∈ (if standing.operation = .dump then _ else []) at told
        split at told
        · cases List.mem_singleton.mp told
          cases refused
        · cases told
    | connectionCredits => cases told
    | _ => exact absurd trivial control

def failureNotices (notice : Except Setback Unit → Notice) (outcome : Except Fault Unit) :
    List Notice :=
  match outcome with
  | .error fault => [notice (.error fault.setback)]
  | .ok () => []

/-- What a session may do with an event: what it writes, the notices it gives and
where it stands afterwards.  The standing before is that in which the controller
has heard the event. -/
inductive Reaction (plan : DiscoveryPlan) (standing : Standing) :
    Event → List Transmission → List Notice → Standing → Prop
  | reset {report : ResetReport} {outcome : Except Fault Unit} {sent : List Transmission}
      (takes : standing.Takes (.reset (.ok report))) (stage : standing.stage = .initReset)
      (posted : Posts (standing.controller.phase = .reset) Command.init.encode outcome sent) :
      Reaction plan standing (.reset (.ok report)) sent (failureNotices .reset outcome)
        { standing with stage := .initInit }
  | init (takes : standing.Takes (.init (.ok ()))) (stage : standing.stage = .initInit) :
      Reaction plan standing (.init (.ok ())) [] [.reset (.ok ())]
        { standing with stage := .initDone }
  | discoverMap {outcome : Except Fault Unit} {sent : List Transmission}
      (takes : standing.Takes (.discoverMap (.ok ()))) (stage : standing.stage = .discoverMap)
      (posted : Posts (standing.controller.phase = .idle) (Command.discover plan.entries).encode
        outcome sent) :
      Reaction plan standing (.discoverMap (.ok ())) sent (failureNotices .discover outcome)
        { standing with stage := .discover }
  | discover (takes : standing.Takes (.discover (.ok ()))) (stage : standing.stage = .discover) :
      Reaction plan standing (.discover (.ok ())) [] [.discover (.ok ())]
        { standing with stage := .discoverNotification }
  | activated (activation : Activation) (takes : standing.Takes (.activated (.ok activation)))
      (stage : standing.stage = .discoverNotification) :
      Reaction plan standing (.activated (.ok activation)) []
        [.detected (.ok ⟨activation, activation.tagFamily?⟩)]
        { standing with
          stage := .discoverActivated
          tag := activation.tagFamily?.map fun family => Tag.ofFamily family activation }
  | deactivate (takes : standing.Takes (.deactivate (.ok ())))
      (stage : standing.stage = .deactivate) :
      Reaction plan standing (.deactivate (.ok ())) [] []
        { standing with stage := .deactivateResponse }
  | deactivated (deactivation : Deactivation)
      (takes : standing.Takes (.deactivated (.ok deactivation)))
      (stage : standing.stage = .deactivateResponse) :
      Reaction plan standing (.deactivated (.ok deactivation)) []
        [.deactivated (.ok deactivation)]
        { standing with stage := .discoverNotification, operation := .discover }
  | reply {connection : UInt8} {payload : Bytes} {tag after : Tag} {lines : List Line}
      {outcome : Except Setback Chunk} (takes : standing.Takes (.data connection payload))
      (stage : standing.stage = .dumpResponse) (held : standing.tag = some tag)
      (taken : tag.takeReply payload = (some outcome, after, lines)) :
      Reaction plan standing (.data connection payload) [] [.dumped outcome]
        { standing with stage := .dump, tag := some after }
  | left {event : Event} (leaves : ¬standing.Takes event) :
      Reaction plan standing event [] (standing.complaints event) standing

theorem Reaction.eq_of_leaves {plan : DiscoveryPlan} {standing after : Standing} {event : Event}
    {sent : List Transmission} {notices : List Notice}
    (reaction : Reaction plan standing event sent notices after)
    (leaves : ¬standing.Takes event) :
    sent = [] ∧ notices = standing.complaints event ∧ after = standing := by
  cases reaction with
  | left _ => exact ⟨rfl, rfl, rfl⟩
  | _ => exact absurd (by assumption) leaves

end Standing

namespace Session

variable {σ : Type}

def standing (session : Session σ) : Standing :=
  { stage := session.stage
    operation := session.operation
    tag := session.tag
    controller := session.host.controller }

def link (session : Session σ) : σ :=
  session.host.link

section Journal

variable (session : Session σ) (line : Line) (lines : List Line) (next : Stage) (fault : Fault)
  (event : Event)

@[simp] theorem standing_note : (session.note line).standing = session.standing := rfl
@[simp] theorem link_note : (session.note line).link = session.link := rfl
@[simp] theorem standing_noteAll : (session.noteAll lines).standing = session.standing := rfl
@[simp] theorem link_noteAll : (session.noteAll lines).link = session.link := rfl
@[simp] theorem standing_moveTo :
    (session.moveTo next).standing = { session.standing with stage := next } := rfl
@[simp] theorem link_moveTo : (session.moveTo next).link = session.link := rfl
@[simp] theorem standing_reportFault :
    (session.reportFault fault).standing = session.standing := rfl
@[simp] theorem link_reportFault : (session.reportFault fault).link = session.link := rfl
@[simp] theorem standing_reportUnexpected :
    (session.reportUnexpected event).standing = session.standing := rfl
@[simp] theorem link_reportUnexpected :
    (session.reportUnexpected event).link = session.link := rfl

end Journal

private theorem awaits_of_stage {session : Session σ} {operation : Operation} {stage : Stage}
    {message : Message} (current : session.operation = operation)
    (present : session.stage = stage) (own : stage.operation = operation)
    (awaited : stage.awaited? = some message) : session.standing.Awaits message := by
  subst present
  exact ⟨current.trans own.symm, awaited⟩

variable [Link σ]

def Reacts (session : Session σ) (event : Event) (result : List Notice × Session σ) : Prop :=
  ∃ path, Path session.link path result.2.link ∧
    Standing.Reaction session.plan session.standing event (transmissions path) result.1
      result.2.standing

theorem reacts_of_left {session after : Session σ} {event : Event} {notices : List Notice}
    (leaves : ¬session.standing.Takes event) (told : notices = session.standing.complaints event)
    (sameLink : after.link = session.link) (sameStanding : after.standing = session.standing) :
    session.Reacts event (notices, after) := by
  refine ⟨[], ?_, ?_⟩
  · rw [sameLink]
    exact .nil _
  · rw [sameStanding, told]
    exact .left leaves

theorem sendNext_posts (session : Session σ) (command : Command)
    (notice : Except Setback Unit → Notice) :
    ∃ path outcome, Path session.link path (session.sendNext command notice).2.link ∧
      Posts (session.host.controller.phase = command.phase) command.encode outcome
        (transmissions path) ∧
      (session.sendNext command notice).1 = Standing.failureNotices notice outcome ∧
      (session.sendNext command notice).2.standing = session.standing := by
  obtain ⟨path, taken, posted⟩ := session.host.command_posts command
  have kept := session.host.controller_command command
  refine ⟨path, (session.host.command command).1, ?_, posted, ?_, ?_⟩
  · unfold sendNext
    split
    · rename_i fault host answered
      rw [answered] at taken
      exact taken
    · rename_i host answered
      rw [answered] at taken
      exact taken
  · unfold sendNext
    split
    · rename_i fault host answered
      rw [answered]
      rfl
    · rename_i host answered
      rw [answered]
      rfl
  · unfold sendNext
    split
    · rename_i fault host answered
      rw [answered] at kept
      exact congrArg (Standing.mk session.stage session.operation session.tag) kept
    · rename_i host answered
      rw [answered] at kept
      exact congrArg (Standing.mk session.stage session.operation session.tag) kept

private theorem reacts_of_unawaited {session after : Session σ} {event : Event}
    {notices : List Notice} (control : event.IsControl)
    (unawaited : ¬session.standing.Awaits event.message)
    (told : session.standing.setbackOf event = .failed →
      notices = session.standing.controlComplaints event)
    (sameLink : after.link = session.link) (sameStanding : after.standing = session.standing) :
    session.Reacts event (notices, after) := by
  refine reacts_of_left ?_ ?_ sameLink sameStanding
  · rw [Standing.takes_control control]
    exact fun takes => unawaited takes.1
  · rw [Standing.complaints_control control]
    exact told (Standing.setbackOf_of_not_awaits unawaited)

private theorem reacts_of_fault {session after : Session σ} {event : Event}
    {notices : List Notice} {fault : Fault} (control : event.IsControl)
    (awaited : session.standing.Awaits event.message) (failed : event.fault? = some fault)
    (told : session.standing.setbackOf event = fault.setback →
      notices = session.standing.controlComplaints event)
    (sameLink : after.link = session.link) (sameStanding : after.standing = session.standing) :
    session.Reacts event (notices, after) := by
  refine reacts_of_left ?_ ?_ sameLink sameStanding
  · rw [Standing.takes_control control, failed]
    exact fun takes => nomatch takes.2
  · rw [Standing.complaints_control control]
    exact told (Standing.setbackOf_of_fault awaited failed)

theorem onResetEvent_reacts (session : Session σ) (event : Event)
    (current : session.operation = .reset) (control : event.IsControl) :
    session.Reacts event (session.onResetEvent event) := by
  have known : session.standing.operation = .reset := current
  unfold onResetEvent
  split
  · rename_i report stage
    obtain ⟨path, outcome, taken, posted, notices, standing⟩ :=
      (session.moveTo .initInit).sendNext_posts .init .reset
    refine ⟨path, taken, ?_⟩
    rw [notices, standing]
    exact .reset ⟨awaits_of_stage current stage rfl rfl, rfl⟩ stage posted
  · rename_i stage
    exact ⟨[], .nil _, .init ⟨awaits_of_stage current stage rfl rfl, rfl⟩ stage⟩
  · rename_i fault stage
    refine reacts_of_fault control (awaits_of_stage current stage rfl rfl) rfl (fun told => ?_) rfl rfl
    rw [Standing.controlComplaints, known, told]
    rfl
  · rename_i fault stage
    refine reacts_of_fault control (awaits_of_stage current stage rfl rfl) rfl (fun told => ?_) rfl rfl
    rw [Standing.controlComplaints, known, told]
    rfl
  · rename_i outcome accepted refused
    refine reacts_of_unawaited control (fun awaited => ?_) (fun told => ?_) rfl rfl
    · have stage : session.stage = .initReset := Stage.eq_of_awaited? awaited.2 rfl
      cases outcome with
      | ok report => exact accepted report stage rfl
      | error fault => exact refused fault stage rfl
    · rw [Standing.controlComplaints, known, told]
      rfl
  · rename_i outcome accepted refused
    refine reacts_of_unawaited control (fun awaited => ?_) (fun told => ?_) rfl rfl
    · have stage : session.stage = .initInit := Stage.eq_of_awaited? awaited.2 rfl
      cases outcome with
      | ok value => exact accepted stage rfl
      | error fault => exact refused fault stage rfl
    · rw [Standing.controlComplaints, known, told]
      rfl
  · rename_i event _ _ noReset noInit _ _ _ _
    have notReset : event.message ≠ .resetResponse := by
      intro same
      cases event <;> cases same
      exact noReset _ rfl
    have notInit : event.message ≠ .initResponse := by
      intro same
      cases event <;> cases same
      exact noInit _ rfl
    refine reacts_of_unawaited control (fun awaited => ?_) (fun told => ?_) rfl rfl
    · have own : session.stage.operation = .reset := awaited.1.symm.trans current
      rcases Stage.awaited?_of_reset own awaited.2 with ⟨_, same⟩ | ⟨_, same⟩
      · exact notReset same
      · exact notInit same
    · rw [Standing.controlComplaints, known]
      dsimp only
      rw [if_neg (not_or.mpr ⟨notReset, notInit⟩)]

theorem onDiscoverEvent_reacts (session : Session σ) (event : Event)
    (current : session.operation = .discover) (control : event.IsControl) :
    session.Reacts event (session.onDiscoverEvent event) := by
  have known : session.standing.operation = _ := current
  have complaint (setback : Setback) (told : session.standing.setbackOf event = setback) :
      session.standing.controlComplaints event =
        if session.stage = .discoverNotification ∨ session.stage = .discoverActivated then
          [.detected (.error setback)]
        else
          [.discover (.error setback)] := by
    rw [Standing.controlComplaints, known, told]
    rfl
  unfold onDiscoverEvent
  split
  · rename_i stage
    obtain ⟨path, outcome, taken, posted, notices, standing⟩ :=
      (session.moveTo .discover).sendNext_posts (.discover session.plan.entries) .discover
    refine ⟨path, taken, ?_⟩
    rw [notices, standing]
    exact .discoverMap ⟨awaits_of_stage current stage rfl rfl, rfl⟩ stage posted
  · rename_i stage
    exact ⟨[], .nil _, .discover ⟨awaits_of_stage current stage rfl rfl, rfl⟩ stage⟩
  · rename_i activation stage
    exact ⟨[], .nil _, .activated activation ⟨awaits_of_stage current stage rfl rfl, rfl⟩ stage⟩
  · rename_i fault stage
    refine reacts_of_fault control (awaits_of_stage current stage rfl rfl) rfl (fun told => ?_) rfl rfl
    rw [complaint _ told, stage]
    rfl
  · rename_i fault stage
    refine reacts_of_fault control (awaits_of_stage current stage rfl rfl) rfl (fun told => ?_) rfl rfl
    rw [complaint _ told, stage]
    rfl
  · rename_i fault stage
    refine reacts_of_fault control (awaits_of_stage current stage rfl rfl) rfl (fun told => ?_) rfl rfl
    rw [complaint _ told, stage]
    rfl
  · rename_i event _ _ stage accepted refused
    refine reacts_of_unawaited control (fun awaited => ?_) (fun told => ?_) rfl rfl
    · have same : Stage.awaited? .discoverNotification = some event.message := stage ▸ awaited.2
      cases event <;> cases same
      rename_i outcome
      cases outcome with
      | ok activation => exact accepted activation rfl
      | error fault => exact refused fault rfl
    · rw [complaint _ told, stage]
      rfl
  · rename_i event _ _ stage
    refine reacts_of_unawaited control (fun awaited => ?_) (fun told => ?_) rfl rfl
    · have same : Stage.awaited? .discoverActivated = some event.message := stage ▸ awaited.2
      cases same
    · rw [complaint _ told, stage]
      rfl
  · rename_i event _ _ notFound notHeld mapAccepted accepted _found mapRefused refused _lost
    refine reacts_of_unawaited control (fun awaited => ?_) (fun told => ?_) rfl rfl
    · have own : session.stage.operation = .discover := awaited.1.symm.trans current
      rcases Stage.awaited?_of_discover own awaited.2 with
        ⟨stage, same⟩ | ⟨stage, same⟩ | ⟨stage, _⟩
      · cases event <;> cases same
        rename_i outcome
        cases outcome with
        | ok value => exact mapAccepted stage rfl
        | error fault => exact mapRefused fault stage rfl
      · cases event <;> cases same
        rename_i outcome
        cases outcome with
        | ok value => exact accepted stage rfl
        | error fault => exact refused fault stage rfl
      · exact notFound stage
    · rw [complaint _ told, if_neg (not_or.mpr ⟨notFound, notHeld⟩)]

theorem onDeactivateEvent_reacts (session : Session σ) (event : Event)
    (current : session.operation = .deactivate) (control : event.IsControl) :
    session.Reacts event (session.onDeactivateEvent event) := by
  have known : session.standing.operation = _ := current
  have complaint (setback : Setback) (told : session.standing.setbackOf event = setback) :
      session.standing.controlComplaints event = [.deactivated (.error setback)] := by
    rw [Standing.controlComplaints, known, told]
  unfold onDeactivateEvent
  split
  · rename_i stage
    exact ⟨[], .nil _, .deactivate ⟨awaits_of_stage current stage rfl rfl, rfl⟩ stage⟩
  · rename_i deactivation stage
    exact ⟨[], .nil _, .deactivated deactivation ⟨awaits_of_stage current stage rfl rfl, rfl⟩ stage⟩
  · rename_i fault stage
    exact reacts_of_fault control (awaits_of_stage current stage rfl rfl) rfl
      (fun told => (complaint _ told).symm) rfl rfl
  · rename_i fault stage
    exact reacts_of_fault control (awaits_of_stage current stage rfl rfl) rfl
      (fun told => (complaint _ told).symm) rfl rfl
  · rename_i event _ _ accepted reported refused unreported
    refine reacts_of_unawaited control (fun awaited => ?_)
      (fun told => (complaint _ told).symm) rfl rfl
    have own : session.stage.operation = .deactivate := awaited.1.symm.trans current
    rcases Stage.awaited?_of_deactivate own awaited.2 with ⟨stage, same⟩ | ⟨stage, same⟩
    · cases event <;> cases same
      rename_i outcome
      cases outcome with
      | ok value => exact accepted stage rfl
      | error fault => exact refused fault stage rfl
    · cases event <;> cases same
      rename_i outcome
      cases outcome with
      | ok deactivation => exact reported deactivation stage rfl
      | error fault => exact unreported fault stage rfl

theorem onData_reacts (session : Session σ) (connection : UInt8) (payload : Bytes) :
    session.Reacts (.data connection payload) (session.onData connection payload) := by
  unfold onData
  by_cases current : session.operation = .dump
  · have known : session.standing.operation = .dump := current
    have complaint : [Notice.dumped (.error .failed)] =
        session.standing.complaints (.data connection payload) := (if_pos known).symm
    rw [if_pos current]
    split
    rename_i reply told awaited
    split at awaited
    · rename_i tag held stage
      have holds : session.standing.tag = some tag := held
      rcases taken : tag.takeReply payload with ⟨outcome?, after, lines⟩
      rw [taken] at awaited
      obtain ⟨rfl, rfl⟩ := Prod.mk.inj awaited
      cases outcome? with
      | some outcome =>
          refine ⟨[], .nil _, .reply ⟨current, stage, ?_⟩ stage held taken⟩
          rw [holds, Option.bind_some, taken]
          rfl
      | none =>
          refine reacts_of_left ?_ complaint rfl ?_
          · rintro ⟨_, _, took⟩
            rw [holds, Option.bind_some, taken] at took
            cases took
          · have ignored : (tag.takeReply payload).1 = none := by rw [taken]
            have kept := tag.takeReply_of_none ignored
            rw [taken] at kept
            have same : some after = session.tag := by rw [held, ← kept]
            exact congrArg
              (Standing.mk session.stage session.operation · session.host.controller) same
    · rename_i unawaited
      obtain ⟨rfl, rfl⟩ := Prod.mk.inj awaited
      refine reacts_of_left ?_ complaint rfl rfl
      rintro ⟨_, stage, took⟩
      cases held : session.tag with
      | none =>
          have bare : session.standing.tag = none := held
          rw [bare] at took
          cases took
      | some tag => exact unawaited tag held stage
  · have other : ¬session.standing.operation = .dump := current
    rw [if_neg current]
    exact reacts_of_left (fun takes => current takes.1) (if_neg other).symm rfl rfl

/-- Every event is either taken or left. -/
theorem onEvent_reacts (session : Session σ) (event : Event) :
    session.Reacts event (session.onEvent event) := by
  unfold onEvent
  dsimp only
  change (session.note (.debug ("tags: " ++ event.name ++ " in " ++ session.place))).Reacts event _
  generalize session.note _ = told
  split
  · refine reacts_of_left (fun takes => ?_) rfl rfl rfl
    exact Stage.awaited?_ne_connectionCredits _ takes.1.2
  · exact told.onData_reacts _ _
  · rename_i event _ noCredits noData
    have control : event.IsControl := by
      cases event with
      | data connection payload => exact noData connection payload rfl
      | connectionCredits => exact noCredits rfl
      | _ => trivial
    have unawaited (foreign : told.operation = .dump ∨ told.operation = .none) :
        ¬told.standing.Awaits event.message := by
      rintro ⟨own, awaited⟩
      have same : told.standing.stage.operation = told.operation := own.symm
      have listed := Stage.operation_of_awaited? awaited
      rw [same] at listed
      rcases foreign with foreign | foreign <;> rw [foreign] at listed <;> simp at listed
    split
    · rename_i current
      exact told.onResetEvent_reacts event current control
    · rename_i current
      exact told.onDiscoverEvent_reacts event current control
    · rename_i current
      exact told.onDeactivateEvent_reacts event current control
    · rename_i current
      have known : told.standing.operation = .dump := current
      refine reacts_of_unawaited control (unawaited (.inl current)) (fun _ => ?_) rfl rfl
      rw [Standing.controlComplaints, known]
    · rename_i current
      have known : told.standing.operation = .none := current
      refine reacts_of_unawaited control (unawaited (.inr current)) (fun _ => ?_) rfl rfl
      rw [Standing.controlComplaints, known]

end Session
end NfcHost
