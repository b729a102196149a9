/-
The journal as a transcript of the link.

With nothing filtered out, the lines that begin like the dump of a packet are, in order, the
packets that have passed the link: each that was handed to it, whatever came of that, and
each that was read from it in full, whatever was made of it.  Their text tells the number of
bytes and leaves no doubt about them.
-/

import NfcHost.Bench.Packets
import NfcHost.Link.Pn7120
import NfcHost.Link.Rigged
import NfcHost.Proofs.Spelling
import NfcHost.Proofs.Work

namespace NfcHost

/-! ### Dumps among the lines -/

def Line.labelled (label : String) (line : Line) : Bool :=
  label.toList.isPrefixOf line.text.toList

def Line.isDump (line : Line) : Bool :=
  line.labelled "NCI_TX: " || line.labelled "NCI_RX: "

theorem Line.toList_dump (severity : Severity) (label : String) (bytes : Bytes) :
    ∃ rest, (dump severity label bytes).text.toList = label.toList ++ rest := by
  rw [dump, String.toList_append, String.toList_append, String.toList_append,
    String.toList_append, List.append_assoc, List.append_assoc, List.append_assoc]
  exact ⟨_, rfl⟩

theorem Line.labelled_dump (severity : Severity) (label : String) (bytes : Bytes) :
    (Line.dump severity label bytes).labelled label = true := by
  obtain ⟨rest, begins⟩ := toList_dump severity label bytes
  rw [labelled, begins]
  exact List.isPrefixOf_iff_prefix.mpr (List.prefix_append _ _)

theorem Line.labelled_dump_of_apart {label other : String} (apart : ¬label.toList <+: other.toList)
    (short : ¬other.toList <+: label.toList) (severity : Severity) (bytes : Bytes) :
    (Line.dump severity other bytes).labelled label = false := by
  obtain ⟨rest, begins⟩ := toList_dump severity other bytes
  rw [labelled, begins]
  apply Bool.eq_false_iff.mpr
  intro starts
  exact not_prefix_append apart short rest (List.isPrefixOf_iff_prefix.mp starts)

theorem Line.not_isDump_of_foreign {line : Line} (foreign : Foreign line.text) :
    line.isDump = false := by
  have unlike {label : String} (member : label ∈ dumpLabels) : line.labelled label = false := by
    apply Bool.eq_false_iff.mpr
    intro starts
    exact (foreign label member).1 (List.isPrefixOf_iff_prefix.mp starts)
  rw [isDump, unlike (.head _), unlike (.tail _ (.head _))]
  rfl

namespace Passage

def sent? : Passage → Option Bytes
  | sent bytes => some bytes
  | received _ => none

def received? : Passage → Option Bytes
  | sent _ => none
  | received bytes => some bytes

theorem labelled_sent (passage : Passage) :
    passage.line.labelled "NCI_TX: " = passage.sent?.isSome := by
  cases passage with
  | sent bytes => exact Line.labelled_dump ..
  | received bytes => exact Line.labelled_dump_of_apart (by decide) (by decide) ..

theorem labelled_received (passage : Passage) :
    passage.line.labelled "NCI_RX: " = passage.received?.isSome := by
  cases passage with
  | sent bytes => exact Line.labelled_dump_of_apart (by decide) (by decide) ..
  | received bytes => exact Line.labelled_dump ..

theorem isDump_line (passage : Passage) : passage.line.isDump = true := by
  rw [Line.isDump, labelled_sent, labelled_received]
  cases passage <;> rfl

end Passage

/-! ### What has passed -/

def packets (path : List Exchange) : List Bytes :=
  (passages path).filterMap Passage.received?

namespace Assembly

theorem sent_next (assembly : Assembly) (exchange : Exchange) :
    (assembly.next exchange).2.bind Passage.sent? =
      exchange.transmission?.map Transmission.bytes := by
  cases exchange with
  | write bytes report => cases assembly <;> rfl
  | wait answer => cases assembly <;> cases answer <;> rfl
  | reset answer => cases assembly <;> rfl
  | read size answer =>
      cases assembly with
      | apart => rfl
      | ready =>
          simp only [next]
          split
          · rfl
          · split <;> rfl
      | headed head =>
          simp only [next]
          split <;> rfl

theorem sent_passages (assembly : Assembly) (path : List Exchange) :
    (assembly.passages path).filterMap Passage.sent? =
      (transmissions path).map Transmission.bytes := by
  induction path generalizing assembly with
  | nil => rfl
  | cons exchange rest ih =>
      have first := assembly.sent_next exchange
      have head : (assembly.next exchange).2.toList.filterMap Passage.sent? =
          (transmissions [exchange]).map Transmission.bytes := by
        generalize (assembly.next exchange).2 = passed at first ⊢
        rcases passed with _ | ⟨bytes⟩ | ⟨bytes⟩ <;> cases exchange <;> cases first <;> rfl
      rw [passages, List.filterMap_append, ih, head, ← List.map_append, ← transmissions_append]
      rfl

end Assembly

/-- The journal shows what has passed on the path: each line that begins like a dump is one,
and there is one for each packet. -/
structure Transcript (journal : Journal) (path : List Exchange) : Prop where
  passed : journal.lines.filter Line.isDump = (passages path).map Passage.line
  sent : journal.lines.filter (Line.labelled "NCI_TX: ") =
    (transmissions path).map fun transmission => .dump .trace "NCI_TX: " transmission.bytes
  received : journal.lines.filter (Line.labelled "NCI_RX: ") =
    (packets path).map fun packet => .dump .trace "NCI_RX: " packet

namespace Transcript

theorem sent_lines (passed : List Passage) :
    (passed.map Passage.line).filter (Line.labelled "NCI_TX: ") =
      (passed.filterMap Passage.sent?).map fun bytes => .dump .trace "NCI_TX: " bytes := by
  induction passed with
  | nil => rfl
  | cons passage rest ih =>
      rw [List.map_cons, List.filter_cons, passage.labelled_sent, ih]
      cases passage <;> rfl

theorem received_lines (passed : List Passage) :
    (passed.map Passage.line).filter (Line.labelled "NCI_RX: ") =
      (passed.filterMap Passage.received?).map fun bytes => .dump .trace "NCI_RX: " bytes := by
  induction passed with
  | nil => rfl
  | cons passage rest ih =>
      rw [List.map_cons, List.filter_cons, passage.labelled_received, ih]
      cases passage <;> rfl

theorem of_passed {journal : Journal} {path : List Exchange}
    (passed : journal.lines.filter Line.isDump = (passages path).map Passage.line) :
    Transcript journal path where
  passed := passed
  sent := by
    have within : journal.lines.filter (Line.labelled "NCI_TX: ") =
        (journal.lines.filter Line.isDump).filter (Line.labelled "NCI_TX: ") := by
      rw [List.filter_filter]
      exact List.filter_congr fun line _ => by
        rw [Line.isDump]
        cases line.labelled "NCI_TX: " <;> rfl
    rw [within, passed, sent_lines, passages, Assembly.sent_passages, List.map_map]
    rfl
  received := by
    have within : journal.lines.filter (Line.labelled "NCI_RX: ") =
        (journal.lines.filter Line.isDump).filter (Line.labelled "NCI_RX: ") := by
      rw [List.filter_filter]
      exact List.filter_congr fun line _ => by
        rw [Line.isDump]
        cases line.labelled "NCI_RX: " <;> cases line.labelled "NCI_TX: " <;> rfl
    rw [within, passed, received_lines]
    rfl

end Transcript

/-! ### Channels -/

/-- The notes that a link makes of its own are no dumps. -/
def Link.Discreet (σ : Type) [Link σ] : Prop :=
  ∀ (link : σ), ∀ line ∈ Link.resetLines link, line.isDump = false

/-- Nothing is filtered out, no packet is half read, and the dumps are what has passed. -/
structure Channel.Shown {σ : Type} [Link σ] (channel : Channel (Traced σ)) : Prop where
  unfiltered : channel.journal.threshold = some .trace
  apart : Assembly.apart.after channel.link.path = .apart
  passed : channel.journal.lines.filter Line.isDump =
    (passages channel.link.path).map Passage.line

theorem Threshold.keeps_trace (line : Line) : Threshold.keeps (some .trace) line = true := by
  obtain ⟨severity, text⟩ := line
  cases severity <;> rfl

theorem Journal.lines_note_of_unfiltered {journal : Journal}
    (unfiltered : journal.threshold = some .trace) (line : Line) :
    (journal.note line).lines = journal.lines ++ [line] := by
  rw [lines_note, unfiltered, List.filter_cons_of_pos (Threshold.keeps_trace line), List.filter_nil]

theorem Journal.noteAll_of_unfiltered {journal : Journal}
    (unfiltered : journal.threshold = some .trace) (lines : List Line) :
    (journal.noteAll lines).threshold = some .trace ∧
      (journal.noteAll lines).lines = journal.lines ++ lines := by
  refine ⟨(journal.threshold_noteAll lines).trans unfiltered, ?_⟩
  rw [lines_noteAll, unfiltered, List.filter_eq_self.mpr fun line _ => Threshold.keeps_trace line]

namespace Channel.Shown

variable {σ : Type} [Link σ] {channel after : Channel (Traced σ)}

theorem extend (shown : channel.Shown) {path : List Exchange} {lines : List Line}
    (taken : after.link.path = channel.link.path ++ path)
    (ended : Assembly.apart.after path = .apart)
    (noted : after.journal = channel.journal.noteAll lines)
    (passed : lines.filter Line.isDump = (passages path).map Passage.line) : after.Shown := by
  obtain ⟨unfiltered, added⟩ := Journal.noteAll_of_unfiltered shown.unfiltered lines
  refine ⟨noted ▸ unfiltered, ?_, ?_⟩
  · rw [taken, Assembly.after_append, shown.apart, ended]
  · rw [noted, added, List.filter_append, shown.passed, passed, taken, passages, passages, passages,
      Assembly.passages_append, shown.apart, List.map_append]

theorem note (shown : channel.Shown) {line : Line} (foreign : Foreign line.text) :
    (channel.note line).Shown := by
  have none : [line].filter Line.isDump = (passages []).map Passage.line := by
    rw [List.filter_singleton, Line.not_isDump_of_foreign foreign]
    rfl
  exact shown.extend (List.append_nil _).symm rfl rfl none

/-- A packet is shown before it is handed over, and whatever comes of that. -/
theorem send (shown : channel.Shown) (bytes : Bytes) : (channel.send bytes).2.Shown := by
  obtain ⟨report, path, _⟩ := channel.send_path bytes
  have taken := Traced.path_eq_append path
  have noted : (channel.send bytes).2.journal =
      channel.journal.noteAll [(Passage.sent bytes).line] := Channel.journal_send bytes channel
  have one : [(Passage.sent bytes).line].filter Line.isDump =
      (passages [.write bytes report]).map Passage.line := by
    rw [List.filter_singleton, Passage.isDump_line]
    rfl
  exact shown.extend taken rfl noted one

theorem receive (shown : channel.Shown) : channel.receive.2.Shown := by
  obtain ⟨path, route, arrival, noted⟩ := channel.receive_shown
  have all : ((passages path).map Passage.line).filter Line.isDump =
      (passages path).map Passage.line := by
    apply List.filter_eq_self.mpr
    intro line member
    obtain ⟨passage, _, rfl⟩ := List.mem_map.mp member
    exact passage.isDump_line
  exact shown.extend (Traced.path_eq_append route) arrival.after_apart noted all

theorem reset (shown : channel.Shown) (discreet : Link.Discreet σ) : channel.reset.2.Shown := by
  have between : (Exchange.reset (Link.reset channel.link).1).Between channel.link
      channel.reset.2.link := rfl
  have none : (Link.resetLines channel.link).filter Line.isDump = [] := by
    apply List.filter_eq_nil_iff.mpr
    intro line member
    rw [discreet channel.link.link line member]
    exact Bool.false_ne_true
  exact shown.extend (Traced.path_between between) rfl rfl none

theorem works (shown : channel.Shown) (discreet : Link.Discreet σ) (works : channel.Works after) :
    after.Shown := by
  induction works with
  | rest => exact shown
  | note _ foreign ih => exact ih.note foreign
  | send _ bytes ih => exact ih.send bytes
  | receive _ ih => exact ih.receive
  | clear _ ih => exact ih.reset discreet

theorem meanwhile (shown : channel.Shown) (change : σ → σ) :
    ({ channel with link := { channel.link with link := change channel.link.link } } :
      Channel (Traced σ)).Shown :=
  ⟨shown.unfiltered, shown.apart, shown.passed⟩

theorem fresh (link : σ) : (Channel.mk (⟨link, []⟩ : Traced σ) (.empty (some .trace))).Shown :=
  ⟨rfl, rfl, rfl⟩

theorem transcript (shown : channel.Shown) : Transcript channel.journal channel.link.path :=
  .of_passed shown.passed

end Channel.Shown

/-! ### Runs -/

def Errand.traced {σ : Type} (errand : Errand σ) : Errand (Traced σ) where
  meanwhile traced := { traced with link := errand.meanwhile traced.link }
  task := errand.task

section

variable {σ : Type} [Link σ]

theorem Host.shown_run (discreet : Link.Discreet σ) (errands : List (Errand σ))
    {host : Host (Traced σ)} (shown : host.channel.Shown) :
    (host.run (errands.map Errand.traced)).channel.Shown := by
  induction errands generalizing host with
  | nil => exact shown
  | cons errand rest ih =>
      have before := shown.meanwhile errand.meanwhile
      have work := Host.works_perform (.rest (host.meanwhile errand.traced.meanwhile).channel)
        errand.task
      exact ih (before.works discreet work)

theorem Session.shown_run (discreet : Link.Discreet σ) (turns : List (Turn σ))
    {session : Session (Traced σ)} (shown : session.channel.Shown) :
    (session.run (turns.map Turn.traced)).channel.Shown := by
  induction turns generalizing session with
  | nil => exact shown
  | cons turn rest ih =>
      have before := shown.meanwhile turn.meanwhile
      have work := Session.works_after
        (.rest (session.meanwhile turn.traced.meanwhile).channel) turn.call
      exact ih (before.works discreet work)

/-- The journal is a transcript of every run, and its text can be read back. -/
structure Transcribed (σ : Type) [Link σ] : Prop where
  hosts (link : σ) (errands : List (Errand σ)) :
    let host := (Host.fresh (⟨link, []⟩ : Traced σ) (some .trace)).run (errands.map Errand.traced)
    Transcript host.channel.journal host.link.path
  sessions (link : σ) (plan : DiscoveryPlan) (turns : List (Turn σ)) :
    let session := (Session.fresh (⟨link, []⟩ : Traced σ) (some .trace) plan).run
      (turns.map Turn.traced)
    Transcript session.host.channel.journal session.link.path
  worded (severity : Severity) (label : String) (bytes : Bytes) :
    (Line.dump severity label bytes).text =
      label ++ "(" ++ toString bytes.length ++ ") " ++ Hex.spaced bytes
  spelled (text : String) (bytes : Bytes) : Hex.read? text = some bytes ↔ text = Hex.spaced bytes
  unmistakable (first second : Bytes) : Hex.spaced first = Hex.spaced second → first = second

theorem dumps_transcribe (discreet : Link.Discreet σ) : Transcribed σ where
  hosts link errands := (Host.shown_run discreet errands (.fresh link)).transcript
  sessions link plan turns := by
    have start : (Session.fresh (⟨link, []⟩ : Traced σ) (some .trace) plan).channel.Shown :=
      .fresh link
    exact (Session.shown_run discreet turns start).transcript
  worded _ _ _ := rfl
  spelled _ _ := Hex.read?_eq_some_iff
  unmistakable _ _ same := Hex.spaced_injective same

end

/-! ### Links of the library -/

theorem QueueLink.discreet : Link.Discreet QueueLink :=
  fun _ _ member => nomatch member

theorem RiggedLink.discreet : Link.Discreet RiggedLink :=
  fun _ _ member => nomatch member

theorem Pn7120.discreet {β : Type} [Board β] : Link.Discreet (Pn7120 β) := by
  intro link line member
  obtain rfl := List.mem_singleton.mp member
  exact Line.not_isDump_of_foreign (by decide)

open Bench

def haltingStart : List (Turn QueueLink) :=
  [ ⟨id, .reset .keepConfig⟩,
    ⟨.push (resetResponse .ok), .process⟩,
    ⟨.push ((initResponse .ok).take Header.size), .process⟩ ]

/-- Both commands and the one answer that was read in full are shown. -/
theorem dumps_transcribe_haltingStart :
    Link.Discreet QueueLink ∧
      let session := (Session.fresh (⟨{}, []⟩ : Traced QueueLink) (some .trace) .standard).run
        (haltingStart.map Turn.traced)
      session.host.channel.journal.lines.filter Line.isDump =
        [ .dump .trace "NCI_TX: " [0x20, 0x00, 0x01, 0x00],
          .dump .trace "NCI_RX: " (resetResponse .ok),
          .dump .trace "NCI_TX: " [0x20, 0x01, 0x00] ] :=
  ⟨QueueLink.discreet,
    (dumps_transcribe QueueLink.discreet).sessions {} .standard haltingStart |>.passed⟩

end NfcHost
