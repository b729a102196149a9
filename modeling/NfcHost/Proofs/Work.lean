/-
What is done to a channel.

A host, a tag and a session do four things to the channel they share: they note lines of
their own, send packets, receive packets and reset the hardware.  `Channel.Works` says no
more than that, so whatever these four keep is kept by every run.  The lines of their own
never begin like the dump of a packet.
-/

import Mathlib.Data.List.Infix
import NfcHost.Proofs.Arrival
import NfcHost.Proofs.Knowledge
import NfcHost.Proofs.Run

namespace NfcHost

/-! ### Lines that are no dump -/

def dumpLabels : List String :=
  ["NCI_TX: ", "NCI_RX: "]

/-- The text differs from each label before either of them ends. -/
def Foreign (text : String) : Prop :=
  ∀ label ∈ dumpLabels, ¬label.toList <+: text.toList ∧ ¬text.toList <+: label.toList

instance (text : String) : Decidable (Foreign text) :=
  inferInstanceAs (Decidable (∀ label ∈ dumpLabels, _))

theorem not_prefix_append {label text : List Char} (other : ¬label <+: text)
    (short : ¬text <+: label) (rest : List Char) : ¬label <+: text ++ rest := by
  intro starts
  rcases List.prefix_or_prefix_of_prefix starts (List.prefix_append text rest) with inner | outer
  · exact other inner
  · exact short outer

theorem Foreign.append {text : String} (foreign : Foreign text) (rest : String) :
    Foreign (text ++ rest) := by
  intro label member
  obtain ⟨other, short⟩ := foreign label member
  rw [String.toList_append]
  refine ⟨not_prefix_append other short rest.toList, fun starts => ?_⟩
  exact short ((List.prefix_append text.toList rest.toList).trans starts)

/-- Most lines say what, with words in front and between, and where or why. -/
theorem Foreign.telling {head : String} (foreign : Foreign head) (what words place : String) :
    Foreign (head ++ what ++ words ++ place) :=
  ((foreign.append what).append words).append place

def AllForeign (lines : List Line) : Prop :=
  ∀ line ∈ lines, Foreign line.text

namespace AllForeign

theorem nil : AllForeign [] :=
  fun _ member => nomatch member

theorem cons {line : Line} {rest : List Line} (first : Foreign line.text)
    (later : AllForeign rest) : AllForeign (line :: rest) :=
  List.forall_mem_cons.mpr ⟨first, later⟩

theorem append {lines rest : List Line} (first : AllForeign lines) (later : AllForeign rest) :
    AllForeign (lines ++ rest) :=
  List.forall_mem_append.mpr ⟨first, later⟩

end AllForeign

namespace Controller

variable (controller : Controller)

theorem foreign_refusalLine (what : String) : Foreign (controller.refusalLine what).text :=
  .telling (by decide) _ _ _

theorem foreign_moveLine (next : Phase) : Foreign (controller.moveLine next).text :=
  .telling (by decide) _ _ _

theorem foreign_handle {α : Type} {awaited : Phase} {message : Message}
    {content : Except Fault α} {accept : α → Controller × List Line}
    (accepted : ∀ value, AllForeign (accept value).2) :
    AllForeign (controller.handle awaited message content accept).lines := by
  unfold handle
  split
  · split
    · exact .nil
    · exact accepted _
  · exact .cons (controller.foreign_refusalLine _) .nil

theorem foreign_detailLines (details : Except Fault Capabilities) :
    AllForeign (detailLines details) := by
  cases details with
  | ok capabilities => exact .nil
  | error fault =>
      have told : Foreign ("CORE_INIT_RSP details not decoded: " ++ fault.message) :=
        .append (by decide) _
      exact .cons told .nil

theorem foreign_dispatch (message : Message) (payload : Bytes) :
    AllForeign (controller.dispatch message payload).lines := by
  have moved (next : Phase) : AllForeign [controller.moveLine next] :=
    .cons (controller.foreign_moveLine next) .nil
  cases message with
  | data connection => exact .nil
  | connectionCredits => exact .nil
  | resetResponse =>
      apply controller.foreign_handle
      intro report
      exact .cons (.telling (by decide) _ _ _) (moved .reset)
  | initResponse =>
      exact controller.foreign_handle fun details =>
        (foreign_detailLines details).append (moved .idle)
  | discoverMapResponse => exact controller.foreign_handle fun _ => .nil
  | discoverResponse => exact controller.foreign_handle fun _ => moved .discovery
  | interfaceActivated => exact controller.foreign_handle fun _ => moved .pollActive
  | deactivateResponse => exact controller.foreign_handle fun _ => moved .discovery
  | deactivated => exact controller.foreign_handle fun _ => .nil

theorem foreign_faultLines (reception : Reception) : AllForeign (faultLines reception) := by
  unfold faultLines
  split
  · exact .nil
  · refine .cons ?_ .nil
    exact .append (.append (.telling (by decide) _ _ _) _) _

theorem foreign_receive (message : Message) (payload : Bytes) :
    AllForeign (controller.receive message payload).lines := by
  have told : Foreign ("NCI_EVT: " ++ message.name) := .append (by decide) _
  exact .cons told ((controller.foreign_dispatch message payload).append (foreign_faultLines _))

end Controller

theorem Host.foreign_packetFaultLine (header : Header) (fault : Fault) :
    Foreign (packetFaultLine header fault).text := by
  unfold packetFaultLine
  split
  · decide
  · apply Foreign.append
    decide

namespace Tag

theorem foreign_startDump (tag : Tag) : AllForeign tag.startDump.2.2 := by
  cases tag with
  | type2 tag => exact .nil
  | mifare activation => exact .cons (by decide) .nil

theorem foreign_takeReply (tag : Tag) (reply : Bytes) :
    AllForeign (tag.takeReply reply).2.2 := by
  cases tag with
  | mifare activation => exact .nil
  | type2 tag =>
      change AllForeign (tag.takeReply reply).2.2
      unfold Type2.takeReply
      split
      · split
        · exact .cons (.telling (by decide) _ _ _) .nil
        · dsimp only
          split
          · exact .nil
          · exact .nil
      · exact .nil

end Tag

/-! ### The four things -/

/-- What may become of a channel. -/
inductive Channel.Works {σ : Type} [Link σ] : Channel σ → Channel σ → Prop
  | rest (channel : Channel σ) : Works channel channel
  | note {before after : Channel σ} {line : Line} (works : Works before after)
      (foreign : Foreign line.text) : Works before (after.note line)
  | send {before after : Channel σ} (works : Works before after) (bytes : Bytes) :
      Works before (after.send bytes).2
  | receive {before after : Channel σ} (works : Works before after) :
      Works before after.receive.2
  | clear {before after : Channel σ} (works : Works before after) : Works before after.reset.2

namespace Journal

theorem threshold_noteAll (journal : Journal) (lines : List Line) :
    (journal.noteAll lines).threshold = journal.threshold := by
  induction lines generalizing journal with
  | nil => rfl
  | cons line rest ih => rw [noteAll_cons, ih, threshold_note]

theorem lines_noteAll (journal : Journal) (lines : List Line) :
    (journal.noteAll lines).lines = journal.lines ++ lines.filter journal.threshold.keeps := by
  induction lines generalizing journal with
  | nil => exact (List.append_nil _).symm
  | cons line rest ih =>
      rw [noteAll_cons, ih, lines_note, threshold_note, List.append_assoc, ← List.filter_append]
      rfl

end Journal

section

variable {σ : Type} [Link σ] {start : Channel σ}

theorem Channel.Works.noteAll {after : Channel σ} (works : start.Works after)
    {lines : List Line} (foreign : AllForeign lines) : start.Works (after.noteAll lines) := by
  induction lines generalizing after with
  | nil => exact works
  | cons line rest ih =>
      obtain ⟨first, later⟩ := List.forall_mem_cons.mp foreign
      exact ih (works.note first) later

theorem Channel.Works.trans {middle after : Channel σ} (first : start.Works middle) (second : middle.Works after) : start.Works after := by
  induction second with
  | rest => exact first
  | note _ foreign ih => exact ih.note foreign
  | send _ bytes ih => exact ih.send bytes
  | receive _ ih => exact ih.receive
  | clear _ ih => exact ih.clear

theorem Channel.Works.journal {after : Channel σ} (works : start.Works after) :
    ∃ lines, after.journal = start.journal.noteAll lines := by
  have further {between : Channel σ} {journal : Journal} (more : List Line)
      (past : ∃ lines, between.journal = start.journal.noteAll lines)
      (noted : journal = between.journal.noteAll more) :
      ∃ lines, journal = start.journal.noteAll lines := by
    obtain ⟨lines, same⟩ := past
    refine ⟨lines ++ more, ?_⟩
    rw [noted, same, Journal.noteAll, Journal.noteAll, Journal.noteAll, List.foldl_append]
  induction works with
  | rest => exact ⟨[], rfl⟩
  | @note between line _ _ ih => exact further [line] ih rfl
  | send _ bytes ih => exact further [_] ih (Channel.journal_send bytes _)
  | @receive between _ ih =>
      obtain ⟨path, _, _, noted⟩ := between.receive_shown
      exact further _ ih noted
  | clear _ ih => exact further _ ih rfl

/-- What a channel goes through leaves the threshold as it is and the lines in place. -/
theorem Channel.Works.lines {after : Channel σ} (works : start.Works after) :
    after.journal.threshold = start.journal.threshold ∧
      ∃ added, after.journal.lines = start.journal.lines ++ added := by
  obtain ⟨lines, noted⟩ := works.journal
  rw [noted]
  exact ⟨Journal.threshold_noteAll _ _, _, Journal.lines_noteAll _ _⟩

/-! ### Hosts -/

namespace Host

variable {host : Host σ}

theorem works_of_result {α : Type} {result : α × Host σ} {outcome : α}
    (works : start.Works result.2.channel) (answered : result = (outcome, host)) :
    start.Works host.channel := by
  subst answered
  exact works

variable (works : start.Works host.channel)

include works

theorem works_transmit {line : Line} (foreign : Foreign line.text) (bytes : Bytes) :
    start.Works (host.transmit line bytes).2.channel :=
  (works.note foreign).send bytes

theorem works_hardReset : start.Works host.hardReset.2.channel := by
  have told : Foreign ("NCI: hard reset from " ++ host.controller.phase.name) :=
    .append (by decide) _
  have noted : start.Works
      (host.note (.debug ("NCI: hard reset from " ++ host.controller.phase.name))).channel :=
    works.note told
  have made := noted.clear
  unfold hardReset
  dsimp only
  split
  · rename_i fault after answered
    have cleared : _ = after := congrArg Prod.snd answered
    exact cleared ▸ made
  · rename_i after answered
    have cleared : _ = after := congrArg Prod.snd answered
    exact cleared ▸ made

theorem works_command (command : Command) : start.Works (host.command command).2.channel := by
  unfold Host.command
  split
  · split
    · exact works
    · refine works_transmit works ?_ _
      exact .append (by decide) _
  · exact works.note (host.controller.foreign_refusalLine _)

theorem works_sendData (connection : UInt8) (data : Bytes) :
    start.Works (host.sendData connection data).2.channel := by
  unfold Host.sendData
  split
  · split
    · exact works
    · refine works_transmit works ?_ _
      exact .telling (by decide) _ _ _
  · exact works.note (host.controller.foreign_refusalLine _)

theorem works_process : start.Works host.process.2.channel := by
  have made := works.receive
  unfold Host.process
  split
  · rename_i fault after answered
    have received : _ = after := congrArg Prod.snd answered
    have told : Foreign ("NCI error: " ++ fault.message) := .append (by decide) _
    exact (received ▸ made).note told
  · rename_i header payload after answered
    have received : _ = after := congrArg Prod.snd answered
    split
    · exact (received ▸ made).note (foreign_packetFaultLine header _)
    · exact (received ▸ made).noteAll (host.controller.foreign_receive _ payload)

theorem works_perform (task : Task) : start.Works (host.perform task).channel := by
  cases task with
  | process => exact works_process works
  | instruct instruction =>
      cases instruction with
      | hardReset => exact works_hardReset works
      | command command => exact works_command works command
      | data connection payload => exact works_sendData works connection payload

theorem works_noteRead (tag : Type2) :
    start.Works
      (host.note (.debug ("T2T: READ block " ++ toString tag.cursor.toNat))).channel := by
  have told : Foreign ("T2T: READ block " ++ toString tag.cursor.toNat) := .append (by decide) _
  exact works.note told

theorem works_request (tag : Tag) : start.Works (tag.request host).2.2.channel := by
  cases tag with
  | mifare activation => exact works
  | type2 tag =>
      change start.Works (tag.request host).2.2.channel
      unfold Type2.request
      split
      · split
        · exact works
        · dsimp only
          have sent := works_sendData (works_noteRead works tag) Type2.connection tag.readCommand
          split
          · rename_i fault after answered
            exact (works_of_result sent answered).note (.telling (by decide) _ _ _)
          · rename_i after answered
            exact works_of_result sent answered
      · exact works
      · exact works

end Host

/-! ### Sessions -/

namespace Session

def channel (session : Session σ) : Channel σ :=
  session.host.channel

variable {session : Session σ} (works : start.Works session.channel)

include works

theorem works_moveTo (next : Stage) : start.Works (session.moveTo next).channel := by
  exact works.note (.telling (by decide) _ _ _)

theorem works_reportFault (fault : Fault) : start.Works (session.reportFault fault).channel := by
  exact works.note (.append (.append (.telling (by decide) _ _ _) _) _)

theorem works_reportUnexpected (event : Event) :
    start.Works (session.reportUnexpected event).channel := by
  exact works.note (.append (.append (.append (.telling (by decide) _ _ _) _) _) _)

theorem works_refuse (what : String) : start.Works (session.refuse what).2.channel := by
  exact works.note (.telling (by decide) _ _ _)

theorem works_noteReset :
    start.Works (session.note (.info ("tags: reset from " ++ session.place))).channel := by
  have told : Foreign ("tags: reset from " ++ session.place) := .append (by decide) _
  exact works.note told

theorem works_noteEvent (event : Event) :
    start.Works
      (session.note (.debug ("tags: " ++ event.name ++ " in " ++ session.place))).channel := by
  exact works.note (.telling (by decide) _ _ _)

theorem works_reset (kind : ResetKind) : start.Works (session.reset kind).2.channel := by
  have made := Host.works_hardReset (works_noteReset works)
  unfold reset
  dsimp only
  split
  · rename_i fault host answered
    have held : start.Works ({ host := host, plan := session.plan } : Session σ).channel :=
      Host.works_of_result made answered
    exact works_reportFault held fault
  · rename_i host answered
    have cleared : start.Works host.channel := Host.works_of_result made answered
    have sent := Host.works_command cleared (.reset kind)
    split
    · rename_i fault after failed
      have held : start.Works ({ host := after, plan := session.plan } : Session σ).channel :=
        Host.works_of_result sent failed
      exact works_reportFault held fault
    · rename_i after done
      exact Host.works_of_result sent done

theorem works_discover : start.Works session.discover.2.channel := by
  unfold discover
  split
  · have sent := Host.works_command works (.discoverMap session.plan.maps)
    split
    · rename_i fault host failed
      have held : start.Works
          ({ session with host := host, stage := .discoverMap } : Session σ).channel :=
        Host.works_of_result sent failed
      exact works_reportFault (works_moveTo held .initDone) fault
    · rename_i host done
      exact Host.works_of_result sent done
  · exact works_refuse works "discover"

theorem works_deactivate : start.Works session.deactivate.2.channel := by
  unfold deactivate
  split
  · have sent := Host.works_command works (.deactivate .discovery)
    split
    · rename_i fault host failed
      have held : start.Works ({ session with host := host } : Session σ).channel :=
        Host.works_of_result sent failed
      exact works_reportFault held fault
    · rename_i host done
      exact Host.works_of_result sent done
  · exact works_refuse works "deactivate"

theorem works_dump : start.Works session.dump.2.channel := by
  unfold dump
  split
  · split
    · exact works.note (by decide)
    · rename_i tag held
      have noted := works.noteAll tag.foreign_startDump
      generalize tag.startDump = result at noted ⊢
      obtain ⟨started, tag, lines⟩ := result
      dsimp only at noted ⊢
      split
      · exact noted.note (.telling (by decide) _ _ _)
      · have told : start.Works (session.host.noteAll lines).channel := noted
        have asked := Host.works_request told tag
        dsimp only [noteAll]
        generalize tag.request (session.host.noteAll lines) = result at asked ⊢
        obtain ⟨requested, tag, host⟩ := result
        dsimp only
        split
        · exact asked.note (.append (by decide) _)
        · exact asked
  · exact works_refuse works "dump"

theorem works_continueDump : start.Works session.continueDump.2.channel := by
  unfold continueDump
  split
  · split
    · exact works
    · rename_i tag held
      have asked := Host.works_request works tag
      generalize tag.request session.host = result at asked ⊢
      obtain ⟨requested, tag, host⟩ := result
      dsimp only
      split
      · exact asked
      · exact asked
  · exact works_refuse works "continue_dump"

/-! ### Events -/

theorem works_sendNext (command : Command) (notice : Except Setback Unit → Notice) :
    start.Works (session.sendNext command notice).2.channel := by
  have sent := Host.works_command works command
  unfold sendNext
  split
  · rename_i fault host failed
    have held : start.Works ({ session with host := host } : Session σ).channel :=
      Host.works_of_result sent failed
    exact works_reportFault held fault
  · rename_i host done
    exact Host.works_of_result sent done

theorem works_onData (connection : UInt8) (payload : Bytes) :
    start.Works (session.onData connection payload).2.channel := by
  unfold onData
  split
  · split
    rename_i reply after answered
    have held : start.Works after.channel := by
      split at answered
      · rename_i tag _ _
        have noted := works.noteAll (tag.foreign_takeReply payload)
        cases answered
        exact noted
      · cases answered
        exact works
    split
    · exact held
    · exact held.note (.append (by decide) _)
  · exact works.note (.telling (by decide) _ _ _)

theorem works_onResetEvent (event : Event) :
    start.Works (session.onResetEvent event).2.channel := by
  unfold onResetEvent
  split
  · exact works_sendNext (works_moveTo works .initInit) .init .reset
  · exact (works_moveTo works .initDone).note (by decide)
  · exact works_reportFault works _
  · exact works_reportFault works _
  · exact works_reportUnexpected works _
  · exact works_reportUnexpected works _
  · exact works.note (.telling (by decide) _ _ _)

omit works in
theorem foreign_detectionLine (activation : Activation) :
    Foreign (detectionLine activation).text := by
  unfold detectionLine
  split
  · exact .telling (by decide) _ _ _
  · apply Foreign.append
    decide

theorem works_onDiscoverEvent (event : Event) :
    start.Works (session.onDiscoverEvent event).2.channel := by
  unfold onDiscoverEvent
  split
  · exact works_sendNext (works_moveTo works .discover) _ _
  · exact works_moveTo works .discoverNotification
  · exact (works_moveTo works .discoverActivated).note (foreign_detectionLine _)
  · exact works_reportFault works _
  · exact works_reportFault works _
  · exact works_reportFault works _
  · exact works_reportUnexpected works _
  · exact works_reportUnexpected works _
  · exact works_reportUnexpected works _

theorem works_onDeactivateEvent (event : Event) :
    start.Works (session.onDeactivateEvent event).2.channel := by
  unfold onDeactivateEvent
  split
  · exact works_moveTo works .deactivateResponse
  · rename_i deactivation _
    have told : Foreign ("tags: deactivated (" ++ deactivation.reason.name ++ ")") :=
      .append (.append (by decide) _) _
    have noted : start.Works ((session.moveTo .deactivateNotification).note
        (.info ("tags: deactivated (" ++ deactivation.reason.name ++ ")"))).channel :=
      (works_moveTo works .deactivateNotification).note told
    exact works_moveTo noted .discoverNotification
  · exact works_reportFault works _
  · exact works_reportFault works _
  · exact works_reportUnexpected works _

theorem works_onEvent (event : Event) : start.Works (session.onEvent event).2.channel := by
  have noted := works_noteEvent works event
  unfold onEvent
  dsimp only
  split
  · exact noted
  · exact works_onData noted _ _
  · split
    · exact works_onResetEvent noted event
    · exact works_onDiscoverEvent noted event
    · exact works_onDeactivateEvent noted event
    · exact noted.note (.append (.append (by decide) _) _)
    · exact noted.note (.append (.append (by decide) _) _)

theorem works_process : start.Works session.process.2.2.channel := by
  have came := Host.works_process works
  unfold process
  split
  · rename_i fault host failed
    have held : start.Works ({ session with host := host } : Session σ).channel :=
      Host.works_of_result came failed
    exact works_reportFault held fault
  · rename_i event host done
    have held : start.Works ({ session with host := host } : Session σ).channel :=
      Host.works_of_result came done
    exact works_onEvent held event

theorem works_after (call : Call) : start.Works (session.after call).channel := by
  cases call with
  | reset kind => exact works_reset works kind
  | discover => exact works_discover works
  | deactivate => exact works_deactivate works
  | dump => exact works_dump works
  | continueDump => exact works_continueDump works
  | process => exact works_process works

end Session
end
end NfcHost
