/-
No failure goes unsaid.

Whenever a call of a session fails, or a notice tells of a setback, an error has been written
meanwhile.  What a session makes of a fault tells little, so a fault that the host meets while
a packet is processed is written down in full first: one that kept the packet from being a
message, one for which its message was refused, and one of the command that it led to.
-/

import NfcHost.Proofs.Coherence
import NfcHost.Proofs.Likeness
import NfcHost.Proofs.Work

namespace NfcHost

/-! ### Lines that are written on the way -/

def Line.Alarms (line : Line) : Prop :=
  line.severity = .error

/-- An error that tells of a fault in full. -/
def Line.Quotes (fault : Fault) (line : Line) : Prop :=
  line.Alarms ∧ ∃ front back, line.text = front ++ fault.message ++ back

namespace Journal

theorem lines_note_of_alarms {journal : Journal} {lowest : Severity} {line : Line}
    (threshold : journal.threshold = some lowest) (alarms : line.Alarms) :
    (journal.note line).lines = journal.lines ++ [line] := by
  have first : Severity.all.idxOf line.severity = 0 := by
    rw [alarms]
    rfl
  have kept : journal.threshold.keeps line :=
    Threshold.keeps_iff.mpr ⟨lowest, threshold, first ▸ Nat.zero_le _⟩
  rw [lines_note, List.filter_cons_of_pos kept, List.filter_nil]

end Journal

namespace Channel

variable {σ : Type} [Link σ]

/-- On the way from one channel to the other a line is written of which this is true. -/
def Tells (start after : Channel σ) (said : Line → Prop) : Prop :=
  ∃ middle line, said line ∧ start.Works middle ∧ (middle.note line).Works after

namespace Tells

variable {start middle after : Channel σ} {said : Line → Prop}

theorem of_note {line : Line} (works : start.Works middle) (holds : said line) :
    start.Tells (middle.note line) said :=
  ⟨middle, line, holds, works, .rest _⟩

theorem followed (tells : start.Tells middle said) (works : middle.Works after) :
    start.Tells after said := by
  obtain ⟨before, line, holds, first, second⟩ := tells
  exact ⟨before, line, holds, first, second.trans works⟩

theorem imp {more : Line → Prop} (tells : start.Tells after said)
    (implies : ∀ line, said line → more line) : start.Tells after more := by
  obtain ⟨before, line, holds, first, second⟩ := tells
  exact ⟨before, line, implies line holds, first, second⟩

theorem of_mem {lines : List Line} {line : Line} (works : start.Works middle)
    (foreign : AllForeign lines) (member : line ∈ lines) (holds : said line) :
    start.Tells (middle.noteAll lines) said := by
  obtain ⟨front, back, rfl⟩ := List.append_of_mem member
  obtain ⟨before, rest⟩ := List.forall_mem_append.mp foreign
  obtain ⟨_, later⟩ := List.forall_mem_cons.mp rest
  have added : middle.noteAll (front ++ line :: back) =
      ((middle.noteAll front).note line).noteAll back := by
    simp only [Channel.noteAll, Channel.note, Journal.noteAll, List.foldl_append, List.foldl_cons]
  rw [added]
  exact (of_note (works.noteAll before) holds).followed (Works.noteAll (.rest _) later)

theorem exists_line {lowest : Severity} (tells : start.Tells after said)
    (kept : start.journal.threshold = some lowest)
    (alarms : ∀ line, said line → line.Alarms) :
    ∃ line ∈ after.journal.lines.drop start.journal.lines.length, said line := by
  obtain ⟨middle, line, holds, first, second⟩ := tells
  obtain ⟨same, early, before⟩ := first.lines
  obtain ⟨_, late, behind⟩ := second.lines
  have noted : (middle.note line).journal.lines = middle.journal.lines ++ [line] :=
    Journal.lines_note_of_alarms (same.trans kept) (alarms line holds)
  refine ⟨line, ?_, holds⟩
  rw [behind, noted, before, List.append_assoc, List.append_assoc, List.drop_left]
  simp

end Tells
end Channel

section

variable {σ : Type} [Link σ] {start : Channel σ}

/-! ### Hosts and tags -/

theorem Line.alarms_of_quotes {fault : Fault} (line : Line) (quotes : line.Quotes fault) :
    line.Alarms :=
  quotes.1

theorem Controller.exists_quotes {controller : Controller} {message : Message} {payload : Bytes}
    {fault : Fault} (refused : (controller.receive message payload).event.fault? = some fault) :
    ∃ line ∈ (controller.receive message payload).lines, line.Quotes fault := by
  have told : (controller.receive message payload).lines =
      .debug ("NCI_EVT: " ++ message.name) :: ((controller.dispatch message payload).lines ++
        faultLines (controller.dispatch message payload)) := rfl
  have failed : (controller.dispatch message payload).event.fault? = some fault := refused
  rw [told, faultLines, failed]
  refine ⟨_, .tail _ (List.mem_append_right _ (.head _)), rfl, _, _, String.append_assoc⟩

theorem Host.tells_process {host : Host σ} {event : Event} {fault : Fault}
    (works : start.Works host.channel) (came : host.process.1 = .ok event)
    (refused : event.fault? = some fault) :
    start.Tells host.process.2.channel (Line.Quotes fault) := by
  have received := works.receive
  unfold Host.process at came ⊢
  split at came
  · cases came
  · rename_i header payload channel answered
    rw [answered] at received
    split at came
    · cases came
    · rename_i message named
      cases came
      obtain ⟨line, member, quotes⟩ := Controller.exists_quotes refused
      exact .of_mem received (host.controller.foreign_receive message payload) member quotes

theorem Tag.alarms_request {tag : Tag} {host : Host σ} (works : start.Works host.channel)
    (failed : (tag.request host).1 = .error .failed) :
    start.Tells (tag.request host).2.2.channel Line.Alarms := by
  cases tag with
  | mifare activation => cases failed
  | type2 tag =>
      change (tag.request host).1 = _ at failed
      change start.Tells (tag.request host).2.2.channel _
      revert failed
      unfold Type2.request
      split
      · split
        · exact nofun
        · have sent := Host.works_sendData (Host.works_noteRead works tag) Type2.connection
            tag.readCommand
          dsimp only
          split
          · rename_i fault after answered
            exact fun _ => .of_note (Host.works_of_result sent answered) rfl
          · exact nofun
      · exact nofun
      · exact nofun

theorem Tag.alarms_takeReply {tag : Tag} {reply : Bytes} {setback : Setback}
    (bad : (tag.takeReply reply).1 = some (.error setback)) :
    ∃ line ∈ (tag.takeReply reply).2.2, line.Alarms := by
  cases tag with
  | mifare activation => cases bad
  | type2 tag =>
      change (tag.takeReply reply).1 = _ at bad
      change ∃ line ∈ (tag.takeReply reply).2.2, line.Alarms
      unfold Type2.takeReply at bad ⊢
      split at bad
      · split at bad
        · exact ⟨_, .head _, rfl⟩
        · dsimp only at bad
          split at bad
          · cases bad
          · cases bad
      · cases bad

theorem Host.command_note (host : Host σ) (line : Line) (command : Command) :
    ((host.note line).command command).1 = (host.command command).1 := by
  have like : (Likeness.oneLink σ (fun _ _ => True) fun _ _ => trivial).Hosts
      (host.note line) host := ⟨rfl, ⟨rfl, trivial⟩⟩
  exact (like.command command).both.1

/-! ### Sessions -/

namespace Session

variable {session : Session σ}

theorem quotes_reportFault (works : start.Works session.channel) (fault : Fault) :
    start.Tells (session.reportFault fault).channel (Line.Quotes fault) := by
  refine .of_note works ⟨rfl, "tags: ", " [" ++ fault.status.name ++ "] in " ++ session.place, ?_⟩
  simp only [Line.error, String.append_assoc]

theorem alarms_reportFault (works : start.Works session.channel) (fault : Fault) :
    start.Tells (session.reportFault fault).channel Line.Alarms :=
  (quotes_reportFault works fault).imp Line.alarms_of_quotes

theorem alarms_reportUnexpected (works : start.Works session.channel) (event : Event) :
    start.Tells (session.reportUnexpected event).channel Line.Alarms := by
  exact .of_note works rfl

theorem alarms_reset (works : start.Works session.channel) {kind : ResetKind}
    (failed : (session.reset kind).1 = .error .failed) :
    start.Tells (session.reset kind).2.channel Line.Alarms := by
  have made := Host.works_hardReset (works_noteReset works)
  revert failed
  unfold reset
  dsimp only
  split
  · rename_i fault host answered
    have held : start.Works ({ host := host, plan := session.plan } : Session σ).channel :=
      Host.works_of_result made answered
    exact fun _ => alarms_reportFault held fault
  · rename_i host answered
    have cleared : start.Works host.channel := Host.works_of_result made answered
    have sent := Host.works_command cleared (.reset kind)
    split
    · rename_i fault after unsent
      have held : start.Works ({ host := after, plan := session.plan } : Session σ).channel :=
        Host.works_of_result sent unsent
      exact fun _ => alarms_reportFault held fault
    · exact nofun

theorem alarms_discover (works : start.Works session.channel)
    (failed : session.discover.1 = .error .failed) :
    start.Tells session.discover.2.channel Line.Alarms := by
  revert failed
  unfold discover
  split
  · have sent := Host.works_command works (.discoverMap session.plan.maps)
    split
    · rename_i fault host unsent
      have held : start.Works
          ({ session with host := host, stage := .discoverMap } : Session σ).channel :=
        Host.works_of_result sent unsent
      exact fun _ => alarms_reportFault (works_moveTo held .initDone) fault
    · exact nofun
  · exact nofun

theorem alarms_deactivate (works : start.Works session.channel)
    (failed : session.deactivate.1 = .error .failed) :
    start.Tells session.deactivate.2.channel Line.Alarms := by
  revert failed
  unfold deactivate
  split
  · have sent := Host.works_command works (.deactivate .discovery)
    split
    · rename_i fault host unsent
      have held : start.Works ({ session with host := host } : Session σ).channel :=
        Host.works_of_result sent unsent
      exact fun _ => alarms_reportFault held fault
    · exact nofun
  · exact nofun

theorem alarms_dump (works : start.Works session.channel)
    (failed : session.dump.1 = .error .failed) :
    start.Tells session.dump.2.channel Line.Alarms := by
  revert failed
  unfold dump
  split
  · split
    · exact fun _ => .of_note works rfl
    · rename_i tag held
      have noted := works.noteAll tag.foreign_startDump
      generalize tag.startDump = result at noted ⊢
      obtain ⟨started, tag, lines⟩ := result
      dsimp only at noted ⊢
      split
      · exact fun _ => .of_note noted rfl
      · have told : start.Works (session.host.noteAll lines).channel := noted
        have asked := Host.works_request told tag
        dsimp only [noteAll]
        generalize tag.request (session.host.noteAll lines) = result at asked ⊢
        obtain ⟨requested, tag, host⟩ := result
        dsimp only
        split
        · exact fun _ => .of_note asked rfl
        · exact nofun
  · exact nofun

/-- What a tag tells is all that is told here, so there has to be one. -/
theorem alarms_continueDump (works : start.Works session.channel)
    (holds : session.stage = .dump → session.tag ≠ none)
    (failed : session.continueDump.1 = .error .failed) :
    start.Tells session.continueDump.2.channel Line.Alarms := by
  revert failed
  unfold continueDump
  split
  · rename_i stage
    split
    · rename_i missing
      exact absurd missing (holds stage)
    · rename_i tag held
      have asked : (tag.request session.host).1 = .error .failed →
          start.Tells (tag.request session.host).2.2.channel Line.Alarms :=
        Tag.alarms_request works
      generalize tag.request session.host = result at asked ⊢
      obtain ⟨requested, tag, host⟩ := result
      dsimp only
      split
      · exact asked
      · exact nofun
  · exact nofun

/-! ### Events -/

def Sounds (start : Channel σ) (told : List Notice × Session σ) : Prop :=
  ∀ notice ∈ told.1, notice.setback? ≠ none → start.Tells told.2.channel Line.Alarms

section Sounds

theorem sounds_of_tells {told : List Notice × Session σ}
    (tells : start.Tells told.2.channel Line.Alarms) : Sounds start told :=
  fun _ _ _ => tells

theorem sounds_of_success {notice : Notice} {after : Session σ} (success : notice.setback? = none) :
    Sounds start ([notice], after) := by
  intro other member failed
  rw [List.mem_singleton.mp member] at failed
  exact absurd success failed

theorem sounds_nil {after : Session σ} : Sounds start (([] : List Notice), after) :=
  fun _ member => nomatch member

variable (works : start.Works session.channel)

include works

theorem sounds_sendNext (command : Command) (notice : Except Setback Unit → Notice) :
    Sounds start (session.sendNext command notice) := by
  have sent := Host.works_command works command
  unfold sendNext
  split
  · rename_i fault host unsent
    have held : start.Works ({ session with host := host } : Session σ).channel :=
      Host.works_of_result sent unsent
    exact sounds_of_tells (alarms_reportFault held fault)
  · exact sounds_nil

theorem sounds_onResetEvent (event : Event) : Sounds start (session.onResetEvent event) := by
  unfold onResetEvent
  split
  · exact sounds_sendNext (works_moveTo works .initInit) .init .reset
  · exact sounds_of_success rfl
  · exact sounds_of_tells (alarms_reportFault works _)
  · exact sounds_of_tells (alarms_reportFault works _)
  · exact sounds_of_tells (alarms_reportUnexpected works _)
  · exact sounds_of_tells (alarms_reportUnexpected works _)
  · exact sounds_nil

theorem sounds_onDiscoverEvent (event : Event) : Sounds start (session.onDiscoverEvent event) := by
  unfold onDiscoverEvent
  split
  · exact sounds_sendNext (works_moveTo works .discover) _ _
  · exact sounds_of_success rfl
  · exact sounds_of_success rfl
  · exact sounds_of_tells (alarms_reportFault works _)
  · exact sounds_of_tells (alarms_reportFault works _)
  · exact sounds_of_tells (alarms_reportFault works _)
  · exact sounds_of_tells (alarms_reportUnexpected works _)
  · exact sounds_of_tells (alarms_reportUnexpected works _)
  · exact sounds_of_tells (alarms_reportUnexpected works _)

theorem sounds_onDeactivateEvent (event : Event) :
    Sounds start (session.onDeactivateEvent event) := by
  unfold onDeactivateEvent
  split
  · exact sounds_nil
  · exact sounds_of_success rfl
  · exact sounds_of_tells (alarms_reportFault works _)
  · exact sounds_of_tells (alarms_reportFault works _)
  · exact sounds_of_tells (alarms_reportUnexpected works _)

theorem sounds_onData (connection : UInt8) (payload : Bytes) :
    Sounds start (session.onData connection payload) := by
  unfold onData
  split
  · split
    rename_i reply after answered
    -- A tag that takes a reply ill has told why; a reply that no tag takes is told of here.
    have held : start.Works after.channel ∧
        ∀ setback, reply = some (.error setback) → start.Tells after.channel Line.Alarms := by
      split at answered
      · rename_i tag _ _
        have foreign := tag.foreign_takeReply payload
        have noted := works.noteAll foreign
        cases answered
        refine ⟨noted, fun setback bad => ?_⟩
        obtain ⟨line, member, alarms⟩ := Tag.alarms_takeReply bad
        exact .of_mem works foreign member alarms
      · cases answered
        exact ⟨works, nofun⟩
    split
    · rename_i outcome
      cases outcome with
      | ok chunk => exact sounds_of_success rfl
      | error setback => exact sounds_of_tells (held.2 setback rfl)
    · exact sounds_of_tells (.of_note held.1 rfl)
  · exact sounds_nil

theorem sounds_onEvent (event : Event) : Sounds start (session.onEvent event) := by
  have noted := works_noteEvent works event
  unfold onEvent
  dsimp only
  split
  · exact sounds_nil
  · exact sounds_onData noted _ _
  · split
    · exact sounds_onResetEvent noted event
    · exact sounds_onDiscoverEvent noted event
    · exact sounds_onDeactivateEvent noted event
    · exact sounds_of_tells (.of_note noted rfl)
    · exact sounds_nil

end Sounds

/-! ### Faults of the host -/

def next? (session : Session σ) (event : Event) : Option Command :=
  match session.operation, session.stage, event with
  | .reset, .initReset, .reset (.ok _) => some .init
  | .discover, .discoverMap, .discoverMap (.ok ()) => some (.discover session.plan.entries)
  | _, _, _ => none

theorem quotes_sendNext (works : start.Works session.channel) {command : Command}
    (notice : Except Setback Unit → Notice) {fault : Fault}
    (unsent : (session.host.command command).1 = .error fault) :
    start.Tells (session.sendNext command notice).2.channel (Line.Quotes fault) := by
  have sent := Host.works_command works command
  unfold sendNext
  generalize session.host.command command = result at unsent sent
  obtain ⟨outcome, host⟩ := result
  cases unsent
  have held : start.Works ({ session with host := host } : Session σ).channel := sent
  exact quotes_reportFault held fault

theorem quotes_onEvent (works : start.Works session.channel) {event : Event} {command : Command}
    {fault : Fault} (next : session.next? event = some command)
    (unsent : (session.host.command command).1 = .error fault) :
    start.Tells (session.onEvent event).2.channel (Line.Quotes fault) := by
  have noted := works_noteEvent works event
  obtain ⟨host, plan, stage, operation, tag⟩ := session
  unfold next? at next
  split at next
  · rename_i report operation stage
    cases operation
    cases stage
    cases next
    refine quotes_sendNext (works_moveTo noted .initInit) .reset ?_
    exact (Host.command_note _ _ _).trans ((Host.command_note _ _ _).trans unsent)
  · rename_i operation stage
    cases operation
    cases stage
    cases next
    refine quotes_sendNext (works_moveTo noted .discover) .discover ?_
    exact (Host.command_note _ _ _).trans ((Host.command_note _ _ _).trans unsent)
  · cases next

/-! ### Calls -/

variable (works : start.Works session.channel)

include works

theorem works_pumped : start.Works session.pumped.channel :=
  Host.works_process works

theorem quotes_process {fault : Fault} (failed : session.host.process.1 = .error fault) :
    start.Tells session.process.2.2.channel (Line.Quotes fault) := by
  rw [process_of_fault failed]
  exact quotes_reportFault (works_pumped works) fault

theorem alarms_perform (holds : session.stage = .dump → session.tag ≠ none) (call : Call)
    (failed : (session.perform call).1 = .error .failed) :
    start.Tells (session.after call).channel Line.Alarms := by
  cases call with
  | reset kind => exact alarms_reset works failed
  | discover => exact alarms_discover works failed
  | deactivate => exact alarms_deactivate works failed
  | dump => exact alarms_dump works failed
  | continueDump => exact alarms_continueDump works holds failed
  | process =>
      cases answer : session.host.process.1 with
      | error fault => exact (quotes_process works answer).imp Line.alarms_of_quotes
      | ok event =>
          have passed : session.process.1 = .ok () := by
            rw [process_outcome, answer]
            rfl
          cases passed.symm.trans failed

theorem sounds_perform (call : Call) : Sounds start (session.perform call).2 := by
  cases call with
  | process =>
      change Sounds start session.process.2
      cases answer : session.host.process.1 with
      | error fault =>
          rw [process_of_fault answer]
          exact sounds_nil
      | ok event =>
          rw [process_of_event answer]
          exact sounds_onEvent (works_pumped works) event
  | _ => exact sounds_nil

end Session

end

/-! ### Runs -/

theorem Coherent.tag_of_dump {standing : Standing} (coherent : Coherent standing)
    (stage : standing.stage = .dump) : standing.tag ≠ none := by
  intro missing
  have holds := coherent.tag
  rw [stage, missing] at holds
  exact holds

namespace Step

variable {σ : Type} [Link σ]

def written (step : Step σ) : List Line :=
  step.after.channel.journal.lines.drop step.before.channel.journal.lines.length

/-- A fault that the host meets while a packet is processed. -/
inductive Meets (step : Step σ) : Fault → Prop
  | packet {fault : Fault} (call : step.call = .process)
      (failed : step.before.host.process.1 = .error fault) : Meets step fault
  | message {event : Event} {fault : Fault} (call : step.call = .process)
      (came : step.before.host.process.1 = .ok event) (refused : event.fault? = some fault) :
      Meets step fault
  | command {event : Event} {command : Command} {fault : Fault} (call : step.call = .process)
      (came : step.before.host.process.1 = .ok event)
      (next : step.before.next? event = some command)
      (unsent : (step.before.host.process.2.command command).1 = .error fault) : Meets step fault

/-- What a step writes about its failures. -/
structure Discloses (step : Step σ) : Prop where
  appended : step.after.channel.journal.lines =
    step.before.channel.journal.lines ++ step.written
  failure : step.outcome = .error .failed → ∃ line ∈ step.written, line.Alarms
  setback (notice : Notice) : notice ∈ step.notices → notice.setback? ≠ none →
    ∃ line ∈ step.written, line.Alarms
  quotes (fault : Fault) : step.Meets fault → ∃ line ∈ step.written, line.Quotes fault
  folded (setback : Setback) : step.call = .process → step.outcome = .error setback →
    ∃ fault, step.Meets fault ∧ fault.setback = setback

variable {step : Step σ}

theorem Meets.quotes {fault : Fault} (meets : step.Meets fault) :
    step.before.channel.Tells step.after.channel (Line.Quotes fault) := by
  obtain ⟨session, call⟩ := step
  have started : session.channel.Works session.channel := .rest _
  cases meets with
  | packet call failed =>
      cases call
      exact Session.quotes_process started failed
  | @message event fault call came refused =>
      cases call
      have heard := Host.tells_process started came refused
      have worked := Session.works_onEvent (.rest session.pumped.channel) event
      change session.channel.Tells session.process.2.2.channel _
      rw [Session.process_of_event came]
      exact heard.followed worked
  | @command event command fault call came next unsent =>
      cases call
      change session.channel.Tells session.process.2.2.channel _
      rw [Session.process_of_event came]
      exact Session.quotes_onEvent (Session.works_pumped started) next unsent

theorem discloses {lowest : Severity}
    (kept : step.before.channel.journal.threshold = some lowest)
    (holds : step.before.stage = .dump → step.before.tag ≠ none) : step.Discloses where
  appended := by
    obtain ⟨_, added, behind⟩ :=
      (Session.works_after (.rest step.before.channel) step.call).lines
    have after : step.after.channel.journal.lines =
        step.before.channel.journal.lines ++ added := behind
    rw [written, after, List.drop_left]
  failure failed :=
    (Session.alarms_perform (.rest _) holds step.call failed).exists_line kept fun _ => id
  setback notice member failed :=
    (Session.sounds_perform (.rest _) step.call notice member failed).exists_line kept
      fun _ => id
  quotes fault meets := meets.quotes.exists_line kept Line.alarms_of_quotes
  folded setback call failed := by
    obtain ⟨session, _⟩ := step
    cases call
    cases answer : session.host.process.1 with
    | error fault =>
        have returned : session.process.1 = .error fault.setback := by
          rw [Session.process_outcome, answer]
          rfl
        exact ⟨fault, .packet rfl answer, Except.error.inj (returned.symm.trans failed)⟩
    | ok event =>
        have passed : session.process.1 = .ok () := by
          rw [Session.process_outcome, answer]
          rfl
        cases passed.symm.trans failed

end Step

namespace Session

variable {σ : Type} [Link σ]

theorem threshold_steps (turns : List (Turn σ)) (session : Session σ) :
    ∀ made ∈ session.steps turns,
      made.before.channel.journal.threshold = session.channel.journal.threshold := by
  induction turns generalizing session with
  | nil => exact fun made member => nomatch member
  | cons turn rest ih =>
      intro made member
      have kept := (works_after (.rest (session.meanwhile turn.meanwhile).channel) turn.call).lines.1
      rcases List.mem_cons.mp member with rfl | later
      · rfl
      · exact (ih _ made later).trans kept

/-- No failure of a session goes unsaid, whatever its link does and as long as anything is kept in
the journal at all. -/
theorem failures_disclosed (link : σ) (lowest : Severity) (plan : DiscoveryPlan)
    (turns : List (Turn σ)) :
    ∀ made ∈ (fresh link (some lowest) plan).steps turns, made.Discloses := by
  intro made member
  have coherent := steps_invariant Coherent (fun _ _ _ _ coherent move => coherent.of_move move)
    turns (fresh link (some lowest) plan) (.start {}) made member
  have kept := threshold_steps turns (fresh link (some lowest) plan) made member
  exact Step.discloses kept coherent.1.tag_of_dump

/-- The second command of a reset is lost on the link, and the journal tells in what words. -/
theorem failures_disclosed_lost_init :
    ∃ step ∈ (fresh ({} : QueueLink) (some .error) .standard).steps
      [⟨id, .reset .keepConfig⟩,
        ⟨fun link => { link.push [0x40, 0x00, 0x03, 0x00, 0x10, 0x00] with writeFailures := 1 },
          .process⟩],
      step.notices = [.reset (.error .failed)] ∧
        (∃ line ∈ step.written, line.Quotes (.transport "simulated write failure")) ∧
        step.written =
          [.error "tags: transport error: simulated write failure [FAILED] in RESET/INIT_INIT"] := by
  refine ⟨_, .tail _ (.head _), rfl, ?_, rfl⟩
  have disclosed := failures_disclosed ({} : QueueLink) .error .standard
    [⟨id, .reset .keepConfig⟩,
      ⟨fun link => { link.push [0x40, 0x00, 0x03, 0x00, 0x10, 0x00] with writeFailures := 1 },
        .process⟩] _ (.tail _ (.head _))
  exact disclosed.quotes _ (.command rfl rfl rfl rfl)

end Session
end NfcHost
