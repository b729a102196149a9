/-
Journals only filter.

A threshold decides which lines are kept, and nothing else.  Two runs from the same state that
differ in their thresholds come to the same, act by act, and each journal holds what its
threshold keeps of the journal that keeps everything.  This is so for hosts, for tags that are
read through a host, and for sessions.
-/

import NfcHost.Proofs.Agreement
import NfcHost.Proofs.Likeness
import NfcHost.Proofs.Reader
import NfcHost.Proofs.Transcript

namespace NfcHost

/-! ### Filtered journals -/

/-- The first journal keeps everything, and the second what this threshold keeps of it. -/
structure Journal.Filters (threshold : Threshold) (whole kept : Journal) : Prop where
  unfiltered : whole.threshold = some .trace
  filtered : kept.threshold = threshold
  lines : kept.lines = whole.lines.filter threshold.keeps

theorem Journal.Filters.note {threshold : Threshold} {whole kept : Journal}
    (filters : Filters threshold whole kept) (line : Line) :
    Filters threshold (whole.note line) (kept.note line) where
  unfiltered := (whole.threshold_note line).trans filters.unfiltered
  filtered := (kept.threshold_note line).trans filters.filtered
  lines := by
    rw [lines_note, lines_note_of_unfiltered filters.unfiltered, List.filter_append,
      filters.lines, filters.filtered]

theorem Journal.Filters.empty (threshold : Threshold) :
    Filters threshold (.empty (some .trace)) (.empty threshold) :=
  ⟨rfl, rfl, rfl⟩

def Likeness.filtered (σ : Type) [Link σ] (threshold : Threshold) : Likeness σ σ :=
  .oneLink σ (Journal.Filters threshold) fun line filters => filters.note line

/-! ### Machines -/

/-- Something that is used act by act, and keeps a journal meanwhile. -/
structure Machine (π α ρ : Type) where
  perform : π → α → ρ × π
  journal : π → Journal
  /-- The same in everything but the journal, which is empty and has this threshold. -/
  under : Threshold → π → π

namespace Machine

variable {π α ρ : Type} (machine : Machine π α ρ)

def run : π → List α → π
  | state, [] => state
  | state, act :: rest => run (machine.perform state act).2 rest

/-- What comes of every act: its result, and the state after it but for the journal. -/
def trail : π → List α → List (ρ × π)
  | _, [] => []
  | state, act :: rest =>
      ((machine.perform state act).1, machine.under none (machine.perform state act).2) ::
        trail (machine.perform state act).2 rest

/-- Whatever the threshold, the same is done, and the lines that reach it are kept. -/
structure OnlyFilters (start : π) (acts : List α) : Prop where
  unseen (first second : Threshold) :
    machine.trail (machine.under first start) acts =
      machine.trail (machine.under second start) acts
  kept (threshold : Threshold) :
    (machine.journal (machine.run (machine.under threshold start) acts)).lines =
      (machine.journal (machine.run (machine.under (some .trace) start) acts)).lines.filter
        threshold.keeps
  silent : (machine.journal (machine.run (machine.under none start) acts)).lines = []

/-- States that are told apart by nothing but a filtered journal, and whose acts keep it so. -/
structure Simulates (alike : Threshold → π → π → Prop) : Prop where
  start (threshold : Threshold) (state : π) :
    alike threshold (machine.under (some .trace) state) (machine.under threshold state)
  same {threshold : Threshold} {whole kept : π} :
    alike threshold whole kept → machine.under none whole = machine.under none kept
  filters {threshold : Threshold} {whole kept : π} :
    alike threshold whole kept →
      (machine.journal whole).Filters threshold (machine.journal kept)
  perform {threshold : Threshold} {whole kept : π} (act : α) :
    alike threshold whole kept →
      (machine.perform whole act).1 = (machine.perform kept act).1 ∧
        alike threshold (machine.perform whole act).2 (machine.perform kept act).2

namespace Simulates

variable {machine} {alike : Threshold → π → π → Prop}

theorem run (simulates : machine.Simulates alike) {threshold : Threshold} (acts : List α)
    {whole kept : π} (like : alike threshold whole kept) :
    machine.trail whole acts = machine.trail kept acts ∧
      alike threshold (machine.run whole acts) (machine.run kept acts) := by
  induction acts generalizing whole kept with
  | nil => exact ⟨rfl, like⟩
  | cons act rest ih =>
      obtain ⟨result, after⟩ := simulates.perform act like
      obtain ⟨later, last⟩ := ih after
      refine ⟨?_, last⟩
      rw [trail, trail, result, simulates.same after, later]

theorem onlyFilters (simulates : machine.Simulates alike) (start : π) (acts : List α) :
    machine.OnlyFilters start acts := by
  have run (threshold : Threshold) := simulates.run acts (simulates.start threshold start)
  have kept (threshold : Threshold) :
      (machine.journal (machine.run (machine.under threshold start) acts)).lines =
        (machine.journal (machine.run (machine.under (some .trace) start) acts)).lines.filter
          threshold.keeps := (simulates.filters (run threshold).2).lines
  exact
    { unseen := fun first second => (run first).1.symm.trans (run second).1
      kept := kept
      silent := (kept none).trans (List.filter_false _) }

end Simulates
end Machine

/-! ### Hosts -/

namespace Likeness.Hosts

variable {σ τ : Type} [Link σ] [Link τ] {likeness : Likeness σ τ} {left : Host σ}
  {right : Host τ}

theorem perform (like : likeness.Hosts left right) (task : Task) :
    left.reply task = right.reply task ∧
      likeness.Hosts (left.perform task) (right.perform task) := by
  cases task with
  | process =>
      obtain ⟨same, after⟩ := like.process.both
      exact ⟨congrArg Reply.event same, after⟩
  | instruct instruction =>
      cases instruction with
      | hardReset =>
          obtain ⟨same, after⟩ := like.hardReset.both
          exact ⟨congrArg Reply.done same, after⟩
      | command command =>
          obtain ⟨same, after⟩ := (like.command command).both
          exact ⟨congrArg Reply.done same, after⟩
      | data connection payload =>
          obtain ⟨same, after⟩ := (like.sendData connection payload).both
          exact ⟨congrArg Reply.done same, after⟩

end Likeness.Hosts

namespace Host

variable {σ : Type}

def under (threshold : Threshold) (host : Host σ) : Host σ :=
  { host with channel := { host.channel with journal := .empty threshold } }

variable [Link σ]

theorem filtered_start (threshold : Threshold) (host : Host σ) :
    (Likeness.filtered σ threshold).Hosts (host.under (some .trace)) (host.under threshold) :=
  ⟨rfl, ⟨rfl, .empty threshold⟩⟩

theorem filtered_same {threshold : Threshold} {whole kept : Host σ}
    (like : (Likeness.filtered σ threshold).Hosts whole kept) :
    whole.under none = kept.under none := by
  obtain ⟨controller, link, journal⟩ := whole
  obtain ⟨_, _, _⟩ := kept
  obtain ⟨rfl, rfl, _⟩ := like
  rfl

theorem filtered_meanwhile {threshold : Threshold} {whole kept : Host σ}
    (like : (Likeness.filtered σ threshold).Hosts whole kept) (change : σ → σ) :
    (Likeness.filtered σ threshold).Hosts (whole.meanwhile change) (kept.meanwhile change) :=
  ⟨like.controller, ⟨congrArg change like.channels.links, like.channels.journals⟩⟩

def machine (σ : Type) [Link σ] : Machine (Host σ) (Errand σ) Reply where
  perform host errand :=
    ((host.meanwhile errand.meanwhile).reply errand.task,
      (host.meanwhile errand.meanwhile).perform errand.task)
  journal host := host.channel.journal
  under := under

theorem machine_simulates :
    (machine σ).Simulates fun threshold => (Likeness.filtered σ threshold).Hosts where
  start := filtered_start
  same := filtered_same
  filters like := like.channels.journals
  perform errand like := (filtered_meanwhile like errand.meanwhile).perform errand.task

end Host

/-! ### Tags at hand -/

structure Holder (σ : Type) where
  tag : Tag
  host : Host σ

inductive Holder.Answer where
  | done (outcome : Except Setback Unit)
  | took (outcome : Option (Except Setback Chunk))
  | task (reply : Reply)

namespace Holder

variable {σ : Type}

def meanwhile (holder : Holder σ) (change : σ → σ) : Holder σ :=
  { holder with host := holder.host.meanwhile change }

variable [Link σ]

def perform (holder : Holder σ) (act : Act) : Answer × Holder σ :=
  match act with
  | .start =>
      let (outcome, tag, lines) := holder.tag.startDump
      (.done outcome, ⟨tag, holder.host.noteAll lines⟩)
  | .request =>
      let (outcome, tag, host) := holder.tag.request holder.host
      (.done outcome, ⟨tag, host⟩)
  | .reply payload =>
      let (outcome, tag, lines) := holder.tag.takeReply payload
      (.took outcome, ⟨tag, holder.host.noteAll lines⟩)
  | .task task => (.task (holder.host.reply task), { holder with host := holder.host.perform task })

inductive Filtered (threshold : Threshold) : Holder σ → Holder σ → Prop
  | intro {whole kept : Host σ} (tag : Tag)
      (hosts : (Likeness.filtered σ threshold).Hosts whole kept) :
      Filtered threshold ⟨tag, whole⟩ ⟨tag, kept⟩

theorem Filtered.perform {threshold : Threshold} {whole kept : Holder σ}
    (like : Filtered threshold whole kept) (act : Act) :
    (whole.perform act).1 = (kept.perform act).1 ∧
      Filtered threshold (whole.perform act).2 (kept.perform act).2 := by
  cases like with
  | @intro whole kept tag hosts =>
      cases act with
      | start => exact ⟨rfl, .intro _ (hosts.noteAll _)⟩
      | reply payload => exact ⟨rfl, .intro _ (hosts.noteAll _)⟩
      | task task =>
          obtain ⟨reply, after⟩ := hosts.perform task
          exact ⟨congrArg Answer.task reply, .intro tag after⟩
      | request =>
          obtain ⟨outcome, same, hosts⟩ := (hosts.request tag).both
          have asked : (Holder.perform ⟨tag, kept⟩ .request).2 =
              ⟨(tag.request whole).2.1, (tag.request kept).2.2⟩ :=
            congrArg (Holder.mk · (tag.request kept).2.2) same.symm
          rw [asked]
          exact ⟨congrArg Answer.done outcome, .intro _ hosts⟩

def machine (σ : Type) [Link σ] : Machine (Holder σ) (Occasion σ) Answer where
  perform holder occasion := (holder.meanwhile occasion.meanwhile).perform occasion.act
  journal holder := holder.host.channel.journal
  under threshold holder := { holder with host := holder.host.under threshold }

theorem machine_simulates : (machine σ).Simulates Filtered where
  start threshold holder := .intro holder.tag (holder.host.filtered_start threshold)
  same := by
    rintro threshold _ _ ⟨tag, hosts⟩
    exact congrArg (Holder.mk tag) (Host.filtered_same hosts)
  filters := by
    rintro threshold _ _ ⟨tag, hosts⟩
    exact hosts.channels.journals
  perform occasion := by
    rintro ⟨tag, hosts⟩
    have before := Filtered.intro tag (Host.filtered_meanwhile hosts occasion.meanwhile)
    exact before.perform occasion.act

end Holder

/-! ### Sessions -/

namespace Session

variable {σ : Type} [Link σ]

def machine (σ : Type) [Link σ] :
    Machine (Session σ) (Turn σ) (Except Setback Unit × List Notice) where
  perform session turn :=
    let (outcome, notices, after) := (session.meanwhile turn.meanwhile).perform turn.call
    ((outcome, notices), after)
  journal session := session.host.channel.journal
  under threshold session := { session with host := session.host.under threshold }

theorem machine_simulates :
    (machine σ).Simulates fun threshold => (Likeness.filtered σ threshold).Sessions where
  start threshold session := .intro _ _ _ _ (session.host.filtered_start threshold)
  same := by
    rintro threshold _ _ ⟨plan, stage, operation, tag, hosts⟩
    exact congrArg (Session.mk · plan stage operation tag) (Host.filtered_same hosts)
  filters := by
    rintro threshold _ _ ⟨plan, stage, operation, tag, hosts⟩
    exact hosts.channels.journals
  perform {threshold whole kept} turn like := by
    have before := like.meanwhile (fun same => congrArg turn.meanwhile same)
    obtain ⟨outcome, agree⟩ := before.perform turn.call
    obtain ⟨notices, after⟩ := agree.both
    exact ⟨Prod.ext outcome notices, after⟩

end Session

/-- Thresholds have no say in anything but which lines are kept, in whichever state a host, a tag
or a session is at first and whatever is done with it then.  What is written to the link and read
from it is part of the state: a traced link keeps it. -/
theorem journals_only_filter (σ : Type) [Link σ] :
    (∀ (host : Host (Traced σ)) (errands : List (Errand (Traced σ))),
        (Host.machine (Traced σ)).OnlyFilters host errands) ∧
      (∀ (holder : Holder (Traced σ)) (occasions : List (Occasion (Traced σ))),
        (Holder.machine (Traced σ)).OnlyFilters holder occasions) ∧
      ∀ (session : Session (Traced σ)) (turns : List (Turn (Traced σ))),
        (Session.machine (Traced σ)).OnlyFilters session turns :=
  ⟨Host.machine_simulates.onlyFilters, Holder.machine_simulates.onlyFilters,
    Session.machine_simulates.onlyFilters⟩

end NfcHost
