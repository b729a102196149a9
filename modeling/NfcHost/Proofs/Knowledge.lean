/-
What a host knows of its controller.

A host is given instructions and takes in packets, in any order and over any link.
Whatever comes of them, the records it keeps fit the phase it believes the controller to
be in, and each of them was read from the latest message of its kind that was accepted
since the hardware was last reset.
-/

import NfcHost.Proofs.Pump
import NfcHost.Proofs.Transition

namespace NfcHost

/-! ### Runs of a host -/

inductive Task where
  | instruct (instruction : Instruction)
  | process

structure Errand (σ : Type) where
  meanwhile : σ → σ
  task : Task

inductive Finding where
  | nothing
  | cleared
  | accepted (message : Message) (payload : Bytes)

namespace Host

variable {σ : Type}

def meanwhile (host : Host σ) (change : σ → σ) : Host σ :=
  { host with channel := { host.channel with link := change host.channel.link } }

variable [Link σ]

def perform (host : Host σ) : Task → Host σ
  | .instruct instruction => host.obey instruction
  | .process => host.process.2

/-- A reset clears only if it succeeds, and a message is accepted if its event tells of no
fault. -/
def finding (host : Host σ) : Task → Finding
  | .instruct .hardReset =>
      match host.hardReset.1 with
      | .ok () => .cleared
      | .error _ => .nothing
  | .instruct _ => .nothing
  | .process =>
      match host.packet?, host.process.1 with
      | some (message, payload), .ok event =>
          match event.fault? with
          | none => .accepted message payload
          | some _ => .nothing
      | _, _ => .nothing

def run : Host σ → List (Errand σ) → Host σ
  | host, [] => host
  | host, errand :: rest => ((host.meanwhile errand.meanwhile).perform errand.task).run rest

def findings : Host σ → List (Errand σ) → List Finding
  | _, [] => []
  | host, errand :: rest =>
      (host.meanwhile errand.meanwhile).finding errand.task ::
        ((host.meanwhile errand.meanwhile).perform errand.task).findings rest

end Host

/-! ### The latest message of a kind -/

/-- The message was accepted with this payload; since then no other of its kind was, and
nothing was cleared. -/
def Latest (findings : List Finding) (message : Message) (payload : Bytes) : Prop :=
  ∃ past future, findings = past ++ .accepted message payload :: future ∧
    ∀ finding ∈ future, finding ≠ .cleared ∧ ∀ content, finding ≠ .accepted message content

theorem latest_append_iff (findings : List Finding) (finding : Finding) (message : Message)
    (payload : Bytes) :
    Latest (findings ++ [finding]) message payload ↔
      finding = .accepted message payload ∨
        (finding ≠ .cleared ∧ ∀ content, finding ≠ .accepted message content) ∧
          Latest findings message payload := by
  constructor
  · rintro ⟨past, future, split, later⟩
    -- The new finding is the message itself, or the last of those after it.
    rcases List.eq_nil_or_concat future with rfl | ⟨between, last, rfl⟩
    · obtain ⟨_, own⟩ := List.append_inj' split rfl
      exact .inl (List.singleton_inj.mp own)
    · rw [List.concat_eq_append, ← List.cons_append, ← List.append_assoc] at split
      obtain ⟨rfl, same⟩ := List.append_inj' split rfl
      obtain rfl := List.singleton_inj.mp same
      simp only [List.concat_eq_append, List.forall_mem_append, List.forall_mem_singleton] at later
      exact .inr ⟨later.2, past, between, rfl, later.1⟩
  · rintro (rfl | ⟨other, past, future, rfl, later⟩)
    · exact ⟨findings, [], rfl, nofun⟩
    · refine ⟨past, future ++ [finding], by simp, ?_⟩
      simp only [List.forall_mem_append, List.forall_mem_singleton]
      exact ⟨later, other⟩

/-! ### Records -/

structure Kind (α : Type) where
  message : Message
  read : Bytes → Option α
  record : Controller → Option α

namespace Kind

def resetReport : Kind ResetReport where
  message := .resetResponse
  read payload := (ResetReport.ofPayload payload).toOption
  record := Controller.resetReport

/-- Accepted capabilities whose details do not fit together leave no record. -/
def capabilities : Kind Capabilities where
  message := .initResponse
  read payload := (Capabilities.ofPayload payload).toOption.bind Except.toOption
  record := Controller.capabilities

def activation : Kind Activation where
  message := .interfaceActivated
  read payload := (Activation.ofPayload payload).toOption
  record := Controller.activation

def deactivation : Kind Deactivation where
  message := .deactivated
  read payload := (Deactivation.ofPayload payload).toOption
  record := Controller.deactivation

variable {α : Type}

/-- The record is what is read from the latest message of its kind, if there is one. -/
def Recalls (kind : Kind α) (controller : Controller) (findings : List Finding) : Prop :=
  ∀ value, kind.record controller = some value ↔
    ∃ payload, Latest findings kind.message payload ∧ kind.read payload = some value

/-- A new controller has no record of the kind, and an accepted message is recorded if it
is of the kind. -/
structure Lawful (kind : Kind α) : Prop where
  blank : kind.record {} = none
  accepted : ∀ {controller after : Controller} {message : Message} {payload : Bytes}
    {event : Event},
    controller.Transition message payload event after → event.fault? = none →
    kind.record after =
      if message = kind.message then kind.read payload else kind.record controller

theorem lawful_resetReport : resetReport.Lawful where
  blank := rfl
  accepted transition accepted := by
    cases transition with
    | barred awaited other stems refused => cases accepted.symm.trans refused
    | flawed awaited flaw stems refused => cases accepted.symm.trans refused
    | _ => rfl

theorem lawful_capabilities : capabilities.Lawful where
  blank := rfl
  accepted transition accepted := by
    cases transition with
    | barred awaited other stems refused => cases accepted.symm.trans refused
    | flawed awaited flaw stems refused => cases accepted.symm.trans refused
    | @init rest present size =>
        change _ = (Capabilities.ofPayload (0 :: rest)).toOption.bind Except.toOption
        rw [Capabilities.ofPayload_of_ok size]
        rfl
    | _ => rfl

theorem lawful_activation : activation.Lawful where
  blank := rfl
  accepted transition accepted := by
    cases transition with
    | barred awaited other stems refused => cases accepted.symm.trans refused
    | flawed awaited flaw stems refused => cases accepted.symm.trans refused
    | activated present read =>
        change _ = (Activation.ofPayload _).toOption
        rw [read]
        rfl
    | _ => rfl

theorem lawful_deactivation : deactivation.Lawful where
  blank := rfl
  accepted transition accepted := by
    cases transition with
    | barred awaited other stems refused => cases accepted.symm.trans refused
    | flawed awaited flaw stems refused => cases accepted.symm.trans refused
    | _ => rfl

variable {kind : Kind α} {controller after : Controller} {past : List Finding}

theorem Recalls.start (lawful : kind.Lawful) : kind.Recalls {} [] := by
  intro value
  rw [lawful.blank]
  constructor
  · exact nofun
  · rintro ⟨payload, ⟨_, _, split, _⟩, _⟩
    simp at split

theorem Recalls.nothing (recalls : kind.Recalls controller past) :
    kind.Recalls controller (past ++ [.nothing]) := by
  intro value
  rw [recalls value]
  simp [latest_append_iff]

theorem Recalls.cleared (lawful : kind.Lawful) : kind.Recalls {} (past ++ [.cleared]) := by
  intro value
  rw [lawful.blank]
  simp [latest_append_iff]

theorem Recalls.accepted {message : Message} {payload : Bytes} {event : Event}
    (recalls : kind.Recalls controller past) (lawful : kind.Lawful)
    (transition : controller.Transition message payload event after)
    (accepted : event.fault? = none) :
    kind.Recalls after (past ++ [.accepted message payload]) := by
  intro value
  rw [lawful.accepted transition accepted]
  by_cases own : message = kind.message
  · subst own
    simp [latest_append_iff]
  · rw [if_neg own, recalls value]
    simp [latest_append_iff, own]

end Kind

/-! ### Phase and records -/

/-- The records that are present fit the phase. -/
structure Ranked (controller : Controller) : Prop where
  down_iff : controller.phase = .down ↔ controller.resetReport = none
  initialized : controller.capabilities ≠ none →
    controller.phase = .idle ∨ controller.phase = .discovery ∨ controller.phase = .pollActive
  discovering : controller.activation ≠ none ∨ controller.deactivation ≠ none →
    controller.phase = .discovery ∨ controller.phase = .pollActive
  active : controller.phase = .pollActive → controller.activation ≠ none

theorem Ranked.start : Ranked {} where
  down_iff := ⟨fun _ => rfl, fun _ => rfl⟩
  initialized known := absurd rfl known
  discovering known := known.elim (absurd rfl) (absurd rfl)
  active := nofun

theorem Ranked.transition {controller after : Controller} {message : Message} {payload : Bytes}
    {event : Event} (ranked : Ranked controller)
    (transition : controller.Transition message payload event after) : Ranked after := by
  have bare (early : controller.phase = .down ∨ controller.phase = .reset) :
      ¬(controller.activation ≠ none ∨ controller.deactivation ≠ none) := by
    intro known
    rcases ranked.discovering known with late | late <;> simp [late] at early
  have heard {next : Phase} (awake : controller.phase ≠ .down) (up : next ≠ .down) :
      next = .down ↔ controller.resetReport = none :=
    ⟨fun down => absurd down up, fun blank => absurd (ranked.down_iff.mpr blank) awake⟩
  cases transition with
  | data connection payload => exact ranked
  | connectionCredits payload => exact ranked
  | discoverMap present => exact ranked
  | barred awaited other stems refused => exact ranked
  | flawed awaited flaw stems refused => exact ranked
  | reset version config present =>
      exact
        { down_iff := ⟨nofun, nofun⟩
          initialized := fun known => by have := ranked.initialized known; simp [present] at this
          discovering := fun known => absurd known (bare (.inl present))
          active := nofun }
  | init present size =>
      exact
        { down_iff := heard (by simp [present]) nofun
          initialized := fun _ => .inl rfl
          discovering := fun known => absurd known (bare (.inr present))
          active := nofun }
  | discover present =>
      exact
        { down_iff := heard (by simp [present]) nofun
          initialized := fun _ => .inr (.inl rfl)
          discovering := fun _ => .inl rfl
          active := nofun }
  | activated present read =>
      exact
        { down_iff := heard (by simp [present]) nofun
          initialized := fun _ => .inr (.inr rfl)
          discovering := fun _ => .inr rfl
          active := fun _ => nofun }
  | deactivate present =>
      exact
        { down_iff := heard (by simp [present]) nofun
          initialized := fun _ => .inr (.inl rfl)
          discovering := fun _ => .inl rfl
          active := nofun }
  | deactivated type reason present =>
      exact { ranked with discovering := fun _ => .inl present }

structure Informed (controller : Controller) (past : List Finding) : Prop
    extends Ranked controller where
  resetReport : Kind.resetReport.Recalls controller past
  capabilities : Kind.capabilities.Recalls controller past
  activation : Kind.activation.Recalls controller past
  deactivation : Kind.deactivation.Recalls controller past

namespace Informed

variable {controller after : Controller} {past : List Finding}

theorem start : Informed {} [] where
  toRanked := .start
  resetReport := .start Kind.lawful_resetReport
  capabilities := .start Kind.lawful_capabilities
  activation := .start Kind.lawful_activation
  deactivation := .start Kind.lawful_deactivation

theorem nothing (informed : Informed controller past) :
    Informed controller (past ++ [.nothing]) where
  toRanked := informed.toRanked
  resetReport := informed.resetReport.nothing
  capabilities := informed.capabilities.nothing
  activation := informed.activation.nothing
  deactivation := informed.deactivation.nothing

theorem cleared : Informed {} (past ++ [.cleared]) where
  toRanked := .start
  resetReport := .cleared Kind.lawful_resetReport
  capabilities := .cleared Kind.lawful_capabilities
  activation := .cleared Kind.lawful_activation
  deactivation := .cleared Kind.lawful_deactivation

theorem accepted {message : Message} {payload : Bytes} {event : Event}
    (informed : Informed controller past)
    (transition : controller.Transition message payload event after)
    (accepted : event.fault? = none) :
    Informed after (past ++ [.accepted message payload]) where
  toRanked := informed.toRanked.transition transition
  resetReport := informed.resetReport.accepted Kind.lawful_resetReport transition accepted
  capabilities := informed.capabilities.accepted Kind.lawful_capabilities transition accepted
  activation := informed.activation.accepted Kind.lawful_activation transition accepted
  deactivation := informed.deactivation.accepted Kind.lawful_deactivation transition accepted

end Informed

/-! ### All runs -/

namespace Host

variable {σ : Type} [Link σ]

theorem informed_process {host : Host σ} {past : List Finding}
    (informed : Informed host.controller past) :
    Informed host.process.2.controller (past ++ [host.finding .process]) := by
  unfold finding
  cases arrived : host.packet? with
  | none =>
      obtain ⟨fault, failed, kept⟩ := host.process_of_packet?_none arrived
      rw [kept]
      exact informed.nothing
  | some packet =>
      obtain ⟨message, payload⟩ := packet
      obtain ⟨came, after⟩ := host.process_of_packet?_some arrived
      have transition := host.controller.receive_transition message payload
      rw [came, after]
      cases refused : (host.controller.receive message payload).event.fault? with
      | none =>
          dsimp only
          rw [refused]
          exact informed.accepted transition refused
      | some fault =>
          dsimp only
          rw [refused, (host.controller.receive_hears message payload).of_refused refused]
          exact informed.nothing

theorem informed_perform {host : Host σ} {past : List Finding}
    (informed : Informed host.controller past) (task : Task) :
    Informed (host.perform task).controller (past ++ [host.finding task]) := by
  cases task with
  | process => exact informed_process informed
  | instruct instruction =>
      cases instruction with
      | hardReset =>
          change Informed host.hardReset.2.controller _
          unfold finding
          rcases host.hardReset_controller with ⟨fault, failed, kept⟩ | ⟨done, blank⟩
          · rw [failed, kept]
            exact informed.nothing
          · rw [done, blank]
            exact .cleared
      | command asked =>
          change Informed (host.command asked).2.controller _
          rw [host.controller_command asked]
          exact informed.nothing
      | data connection payload =>
          change Informed (host.sendData connection payload).2.controller _
          rw [host.controller_sendData connection payload]
          exact informed.nothing

theorem informed_run (errands : List (Errand σ)) {host : Host σ} {past : List Finding}
    (informed : Informed host.controller past) :
    Informed (host.run errands).controller (past ++ host.findings errands) := by
  -- The past grows with the run, and `Informed` speaks of all of it.
  induction errands generalizing host past with
  | nil =>
      rw [findings, List.append_nil]
      exact informed
  | cons errand rest ih =>
      have before : Informed (host.meanwhile errand.meanwhile).controller past := informed
      have whole := ih (informed_perform before errand.task)
      rw [List.append_assoc] at whole
      exact whole

/-- Whatever is done with a host and whatever its link does, its records fit the phase and
are the latest of their kinds.  There is no reset report exactly while the controller is
down, there are capabilities only once it is initialized, an endpoint was activated or
released only once it has discovered, and one that is active has a record.  A record is what
is read from the latest message of its kind that was accepted since the last reset of the
hardware. -/
theorem run_informed (link : σ) (threshold : Threshold) (errands : List (Errand σ)) :
    Informed ((fresh link threshold).run errands).controller
      ((fresh link threshold).findings errands) := by
  have start : Informed (fresh link threshold).controller [] := .start
  exact informed_run errands start

end Host
end NfcHost
