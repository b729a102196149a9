/-
What the gate of a session is worth.

A session lets a command through by its stage, and the host lets it through by
the phase of the controller.  As long as nothing derails a run, a command that
passes the first gate passes the second; it is refused exactly where the two have
drifted apart.
-/

import NfcHost.Bench.Packets
import NfcHost.Proofs.Drift
import NfcHost.Proofs.Encoding

namespace NfcHost

def DiscoveryPlan.Fits (plan : DiscoveryPlan) : Prop :=
  plan.maps ≠ [] ∧ 1 + plan.maps.length * 3 ≤ Packet.maxPayload

namespace Command

private theorem encode_of_parameters {command : Command} {payload : Bytes}
    (written : command.encodeParameters = .ok payload) (fits : payload.length ≤ Packet.maxPayload) :
    ∃ bytes, command.encode = .ok bytes := by
  rw [encode, toPacket, written]
  dsimp only
  rw [Packet.control_of_le fits]
  exact ⟨_, rfl⟩

theorem encode_discoverMap {plan : DiscoveryPlan} (fits : plan.Fits) :
    ∃ bytes, (discoverMap plan.maps).encode = .ok bytes := by
  obtain ⟨some, inside⟩ := fits
  have wide : ∀ entry ∈ plan.maps.map MapEntry.encode, entry.length = 3 := by
    simp [MapEntry.encode]
  rw [← List.length_map MapEntry.encode] at inside
  have written : (discoverMap plan.maps).encodeParameters = _ :=
    encodeList_of_fits inside (mt List.map_eq_nil_iff.mp some)
  apply encode_of_parameters written
  rw [List.length_cons, length_flatten wide, Nat.add_comm]
  exact inside

theorem encode_deactivate (deactivationType : DeactivationType) :
    ∃ bytes, (deactivate deactivationType).encode = .ok bytes :=
  encode_of_parameters rfl (Nat.le_add_left 1 254)

end Command

/-- The link would take the next packet whole, whatever it is. -/
def Link.Works {σ : Type} [Link σ] (link : σ) : Prop :=
  ∀ bytes, (Link.write bytes link).1 = .ok bytes.length

variable {σ : Type} [Link σ]

theorem Channel.send_of_works {channel : Channel σ} (works : Link.Works channel.link)
    (bytes : Bytes) : (channel.send bytes).1 = .ok () := by
  obtain ⟨report, taken, came⟩ := channel.send_path bytes
  rw [came]
  cases taken with
  | cons written _ =>
      have whole : report = .ok bytes.length := (congrArg Prod.fst written).symm.trans (works bytes)
      exact (Transmission.outcome_ok_iff _).mpr whole

/-- Over a working link, the phase alone decides on a command that can be encoded. -/
theorem Host.command_outcome {host : Host σ} {command : Command} (works : Link.Works host.link)
    (fits : ∃ bytes, command.encode = .ok bytes) :
    (host.command command).1 =
      if host.controller.phase = command.phase then .ok () else .error .rejected := by
  obtain ⟨bytes, encoded⟩ := fits
  unfold Host.command
  split
  · rw [encoded]
    have taken : Link.Works (host.channel.note (.debug ("NCI_CMD: " ++ command.name))).link := works
    exact Channel.send_of_works taken bytes
  · rfl

namespace Session

private theorem setback_of_command {host : Host σ} {command : Command}
    (works : Link.Works host.link) (fits : ∃ bytes, command.encode = .ok bytes) :
    (host.command command).1.mapError Fault.setback =
      if host.controller.phase = command.phase then .ok () else .error .rejected := by
  rw [Host.command_outcome works fits]
  split <;> rfl

theorem discover_outcome {session : Session σ} (stage : session.stage = .initDone)
    (works : Link.Works session.link) (fits : session.plan.Fits) :
    session.discover.1 =
      if session.host.controller.phase = .idle then .ok () else .error .rejected := by
  refine Eq.trans ?_ (setback_of_command works (Command.encode_discoverMap fits))
  unfold discover
  rw [if_pos stage]
  rcases session.host.command (.discoverMap session.plan.maps) with ⟨outcome, host⟩
  cases outcome with
  | ok value => rfl
  | error fault => rfl

theorem deactivate_outcome {session : Session σ}
    (stage : session.stage = .discoverActivated ∨ session.stage = .dump)
    (works : Link.Works session.link) :
    session.deactivate.1 =
      if session.host.controller.phase = .pollActive then .ok () else .error .rejected := by
  refine Eq.trans ?_ (setback_of_command works (Command.encode_deactivate .discovery))
  unfold deactivate
  rw [if_pos stage]
  rcases session.host.command (.deactivate .discovery) with ⟨outcome, host⟩
  cases outcome with
  | ok value => rfl
  | error fault => rfl

end Session

/-- The message that the step takes in derails the session. -/
def Step.Derails (step : Step σ) : Prop :=
  ∃ message payload, step.heard? = some (message, payload) ∧
    step.before.standing.Derails message payload

/-- The session has no use for the message that the step takes in. -/
def Step.Drops (step : Step σ) (message : Message) (payload : Bytes) : Prop :=
  step.heard? = some (message, payload) ∧
    ¬(step.before.standing.hear message payload).Takes (step.before.standing.event message payload)

namespace Step

variable {step : Step σ}

theorem onTrack_after (track : step.before.standing.OnTrack) (kept : ¬step.Derails) :
    step.after.standing.OnTrack := by
  obtain ⟨path, taken, move⟩ := step.before.perform_moves step.call
  exact track.of_move move fun message payload heard derails =>
    kept ⟨message, payload, heard, derails⟩

theorem not_inStep_after (track : step.before.standing.OnTrack) (derails : step.Derails) :
    ¬step.after.standing.InStep := by
  obtain ⟨path, taken, move⟩ := step.before.perform_moves step.call
  obtain ⟨message, payload, heard, derails⟩ := derails
  exact track.not_inStep_of_derails move heard derails

theorem controller_of_drops {message : Message} {payload : Bytes}
    (drops : step.Drops message payload) :
    step.after.host.controller = (step.before.standing.hear message payload).controller := by
  obtain ⟨heard, leaves⟩ := drops
  obtain ⟨path, taken, move⟩ := step.before.perform_moves step.call
  obtain ⟨_, _, same⟩ := (move.reaction heard).eq_of_leaves leaves
  exact congrArg Standing.controller same

/-- On track, the controller takes a message that is dropped for nothing new, unless the
stage is exposed to it. -/
theorem exposed_of_drops {message : Message} {payload : Bytes}
    (track : step.before.standing.OnTrack) (kept : ¬step.Derails)
    (drops : step.Drops message payload)
    (altered : step.after.host.controller ≠ step.before.host.controller) :
    message ∈ step.before.stage.exposed := by
  have left := track.of_left drops.2 fun derails => kept ⟨message, payload, drops.1, derails⟩
  rw [controller_of_drops drops] at altered
  exact left.2.resolve_left altered

end Step

namespace Session

theorem steps_onTrack {session : Session σ} (track : session.standing.OnTrack)
    (turns : List (Turn σ)) (kept : ∀ step ∈ session.steps turns, ¬step.Derails) :
    ∀ step ∈ session.steps turns,
      step.before.standing.OnTrack ∧ step.after.standing.OnTrack := by
  induction turns generalizing session with
  | nil => exact fun step member => nomatch member
  | cons turn rest ih =>
      obtain ⟨keptHere, keptLater⟩ := List.forall_mem_cons.mp kept
      have before : (session.meanwhile turn.meanwhile).standing.OnTrack := track
      have after := Step.onTrack_after before keptHere
      exact List.forall_mem_cons.mpr ⟨⟨before, after⟩, ih after keptLater⟩

theorem steps_inStep_iff {session : Session σ} (track : session.standing.OnTrack)
    (turns : List (Turn σ)) :
    (∀ step ∈ session.steps turns, step.after.standing.InStep) ↔
      ∀ step ∈ session.steps turns, ¬step.Derails := by
  constructor
  · intro inStep
    induction turns generalizing session with
    | nil => exact fun step member => nomatch member
    | cons turn rest ih =>
        obtain ⟨here, later⟩ := List.forall_mem_cons.mp inStep
        have before : (session.meanwhile turn.meanwhile).standing.OnTrack := track
        have kept : ¬Step.Derails ⟨session.meanwhile turn.meanwhile, turn.call⟩ :=
          fun derails => Step.not_inStep_after before derails here
        exact List.forall_mem_cons.mpr ⟨kept, ih (Step.onTrack_after before kept) later⟩
  · intro kept step member
    exact (steps_onTrack track turns kept step member).2.inStep

end Session

/-- What the gate of a session is worth in a run. -/
structure Gated (plan : DiscoveryPlan) (steps : List (Step σ)) : Prop where
  inStep : (∀ step ∈ steps, step.after.standing.InStep) ↔ ∀ step ∈ steps, ¬step.Derails
  discovers : plan.Fits → ∀ step ∈ steps, Link.Works step.before.link →
    step.call = .discover → step.before.stage = .initDone →
    step.outcome =
      if step.before.host.controller.phase = .idle then .ok () else .error .rejected
  releases : ∀ step ∈ steps, Link.Works step.before.link → step.call = .deactivate →
    step.before.stage = .discoverActivated ∨ step.before.stage = .dump →
    step.outcome =
      if step.before.host.controller.phase = .pollActive then .ok () else .error .rejected
  drops : ∀ step ∈ steps, ∀ message payload, step.Drops message payload →
    (step.after.host.controller = step.before.host.controller ↔
      step.before.host.controller.NothingNew (step.before.standing.event message payload))
  exposed : (∀ step ∈ steps, ¬step.Derails) → ∀ step ∈ steps, ∀ message payload,
    step.Drops message payload →
    step.after.host.controller ≠ step.before.host.controller →
    message ∈ step.before.stage.exposed

namespace Session

/-- In every run the gate of the session is worth as much as its controller agrees. -/
theorem steps_gated (link : σ) (threshold : Threshold) (plan : DiscoveryPlan)
    (turns : List (Turn σ)) : Gated plan ((fresh link threshold plan).steps turns) := by
  have track : (fresh link threshold plan).standing.OnTrack := .start
  refine ⟨steps_inStep_iff track turns, ?_, ?_, ?_, ?_⟩
  · intro fits step member works call stage
    have same := plan_steps turns (fresh link threshold plan) step member
    rw [Step.outcome, call]
    exact discover_outcome stage works (same ▸ fits)
  · intro step member works call stage
    rw [Step.outcome, call]
    exact deactivate_outcome stage works
  · intro step member message payload drops
    rw [Step.controller_of_drops drops]
    exact (step.before.standing.hears message payload).eq_iff
  · intro kept step member message payload drops altered
    have onTrack := (steps_onTrack track turns kept step member).1
    exact Step.exposed_of_drops onTrack (kept step member) drops altered

def strayAnswer : List (Turn QueueLink) :=
  [ ⟨id, .reset .keepConfig⟩,
    ⟨.push (Bench.resetResponse .ok), .process⟩,
    ⟨.push (Bench.initResponse .ok), .process⟩,
    ⟨.push (Bench.discoverResponse .ok), .process⟩,
    ⟨id, .discover⟩ ]

/-- After a stray answer the session is ready, but discovery is refused. -/
theorem steps_gated_stray_answer :
    ∃ step ∈ (fresh ({} : QueueLink) none .standard).steps strayAnswer,
      step.call = .discover ∧ step.before.stage = .initDone ∧ step.outcome = .error .rejected := by
  have gated := steps_gated ({} : QueueLink) none .standard strayAnswer
  refine ⟨_, .tail _ (.tail _ (.tail _ (.tail _ (.head _)))), rfl, rfl, ?_⟩
  exact gated.discovers ⟨by decide, by decide⟩ _ (.tail _ (.tail _ (.tail _ (.tail _ (.head _)))))
    (fun _ => rfl) rfl rfl

end Session
end NfcHost
