/-
Packets that say nothing.

A packet that is no message, or that only counts credits, can come in between any two
packets of a stream.  If it is processed by a call of its own, a session does exactly what
it would have done without the packet and without that call.
-/

import NfcHost.Proofs.Likeness
import NfcHost.Proofs.Recovery

namespace NfcHost

/-- The packet is refused by the decoder or holds no message, or the message only counts
credits. -/
inductive IsNoise (bytes : Bytes) : Prop
  | foreign {fault : Fault} (complete : Complete bytes)
      (refused : Packet.contents bytes = .error fault) : IsNoise bytes
  | credits {payload : Bytes} (complete : Complete bytes)
      (read : Packet.contents bytes = .ok (.connectionCredits, payload)) : IsNoise bytes

theorem IsNoise.complete {bytes : Bytes} (noise : IsNoise bytes) : Complete bytes := by
  cases noise with
  | foreign complete _ => exact complete
  | credits complete _ => exact complete

/-! ### Runs with noise -/

inductive Occurrence where
  | packet (bytes : Bytes)
  | noise (bytes : Bytes)
  | arm (shortWrites writeFailures : Nat)
  | call (call : Call)
  | extra

/-- What is left of a run without noise. -/
def Occurrence.isOwn : Occurrence → Bool
  | noise _ => false
  | extra => false
  | _ => true

inductive Queued where
  | own (bytes : Bytes) (complete : Complete bytes)
  | noise (bytes : Bytes) (noise : IsNoise bytes)

def Queued.bytes : Queued → Bytes
  | own bytes _ => bytes
  | noise bytes _ => bytes

def Queued.isOwn : Queued → Bool
  | own _ _ => true
  | noise _ _ => false

def wire (queue : List Queued) : Bytes :=
  queue.flatMap Queued.bytes

def ownWire (queue : List Queued) : Bytes :=
  wire (queue.filter Queued.isOwn)

theorem wire_concat (queue : List Queued) (packet : Queued) :
    wire (queue ++ [packet]) = wire queue ++ packet.bytes := by
  simp [wire]

theorem ownWire_concat_own (queue : List Queued) {bytes : Bytes} (complete : Complete bytes) :
    ownWire (queue ++ [.own bytes complete]) = ownWire queue ++ bytes := by
  simp [ownWire, wire, List.filter_cons, Queued.isOwn, Queued.bytes]

theorem ownWire_concat_noise (queue : List Queued) {bytes : Bytes} (noise : IsNoise bytes) :
    ownWire (queue ++ [.noise bytes noise]) = ownWire queue := by
  simp [ownWire, Queued.isOwn]

/-- From this queue on, every packet is complete, noise is processed by an extra call as soon
as it is next, and never by a call of the application. -/
inductive Scheduled : List Queued → List Occurrence → Prop
  | done (queue : List Queued) : Scheduled queue []
  | packet {queue : List Queued} {bytes : Bytes} {rest : List Occurrence}
      (complete : Complete bytes) (later : Scheduled (queue ++ [.own bytes complete]) rest) :
      Scheduled queue (.packet bytes :: rest)
  | noise {queue : List Queued} {bytes : Bytes} {rest : List Occurrence} (noise : IsNoise bytes)
      (later : Scheduled (queue ++ [.noise bytes noise]) rest) :
      Scheduled queue (.noise bytes :: rest)
  | arm {queue : List Queued} {rest : List Occurrence} (shortWrites writeFailures : Nat)
      (later : Scheduled queue rest) : Scheduled queue (.arm shortWrites writeFailures :: rest)
  | call {queue : List Queued} {call : Call} {rest : List Occurrence} (other : call ≠ .process)
      (later : Scheduled queue rest) : Scheduled queue (.call call :: rest)
  | nothing {rest : List Occurrence} (later : Scheduled [] rest) :
      Scheduled [] (.call .process :: rest)
  | process {queue : List Queued} {bytes : Bytes} {complete : Complete bytes}
      {rest : List Occurrence} (later : Scheduled queue rest) :
      Scheduled (.own bytes complete :: queue) (.call .process :: rest)
  | extra {queue : List Queued} {bytes : Bytes} {noise : IsNoise bytes} {rest : List Occurrence}
      (later : Scheduled queue rest) : Scheduled (.noise bytes noise :: queue) (.extra :: rest)

namespace Session

def occur (session : Session (Traced QueueLink)) : Occurrence → Session (Traced QueueLink)
  | .packet bytes => session.meanwhile fun traced => { traced with link := traced.link.push bytes }
  | .noise bytes => session.meanwhile fun traced => { traced with link := traced.link.push bytes }
  | .arm shortWrites writeFailures =>
      session.meanwhile fun traced =>
        { traced with
          link :=
            { traced.link with shortWrites := shortWrites, writeFailures := writeFailures } }
  | .call call => session.after call
  | .extra => session.after .process

def play : Session (Traced QueueLink) → List Occurrence → List Record
  | _, [] => []
  | session, .call call :: rest => Step.record ⟨session, call⟩ :: (session.after call).play rest
  | session, other :: rest => (session.occur other).play rest

def asides : Session (Traced QueueLink) → List Occurrence → List Record
  | _, [] => []
  | session, .extra :: rest =>
      Step.record ⟨session, .process⟩ :: (session.after .process).asides rest
  | session, other :: rest => (session.occur other).asides rest

end Session

structure Record.Idle (record : Record) : Prop where
  sent : record.deed.sent = []
  notices : record.deed.notices = []
  after : record.after = record.before

/-! ### Links that are not listened to -/

/-- A link from which nothing is ever received.  Whatever a session does without receiving
anything, it does over this link as over the link itself. -/
def Deaf (σ : Type) : Type :=
  σ

namespace Deaf

variable {σ : Type} [Link σ]

instance : Link (Deaf σ) where
  write := @Link.write σ _
  reset := @Link.reset σ _
  resetLines := @Link.resetLines σ _
  read _ link := (.ok ⟨0, []⟩, link)
  wait link := (.error .timeout, link)

theorem onEvent_eq (session : Session σ) (event : Event) :
    @Session.onEvent (Deaf σ) _ session event = session.onEvent event :=
  rfl

theorem perform_eq (session : Session σ) {call : Call} (other : call ≠ .process) :
    @Session.perform (Deaf σ) _ session call = session.perform call := by
  cases call with
  | process => exact absurd rfl other
  | _ => rfl

end Deaf

theorem QueueLink.write_besides (bytes queue : Bytes) (link : QueueLink) :
    write bytes { link with pending := queue } =
      ((write bytes link).1, { (write bytes link).2 with pending := queue }) := by
  unfold write
  dsimp only
  cases link.writeFailures with
  | succ failures => rfl
  | zero => cases link.shortWrites <;> rfl

/-- The links have queues of their own and are otherwise the same, and the same was written
over both. -/
structure Traced.Besides (noisy quiet : Bytes) (left right : Traced QueueLink) : Prop where
  links : left.link = { right.link with pending := noisy }
  queued : right.link.pending = quiet
  wrote : transmissions left.path = transmissions right.path

namespace Traced.Besides

variable {noisy quiet : Bytes} {left right : Traced QueueLink}

theorem write (besides : Besides noisy quiet left right) (bytes : Bytes) :
    Agree (Besides noisy quiet) (Link.write bytes left) (Link.write bytes right) := by
  have written := QueueLink.write_besides bytes noisy right.link
  rw [← besides.links] at written
  have shown : Link.write bytes left =
      ((QueueLink.write bytes left.link).1,
        ⟨(QueueLink.write bytes left.link).2,
          left.path ++ [.write bytes (QueueLink.write bytes left.link).1]⟩) := rfl
  rw [shown, written]
  refine .intro _ ⟨rfl, (QueueLink.pending_write bytes right.link).trans besides.queued, ?_⟩
  rw [transmissions_append, transmissions_append, besides.wrote]
  rfl

theorem reset (besides : Besides noisy quiet left right) :
    Agree (Besides noisy quiet) (Link.reset left) (Link.reset right) := by
  have links : left.link.reset.2 = { right.link.reset.2 with pending := noisy } := by
    rw [besides.links]
    rfl
  refine .intro (Except.ok ()) ⟨links, besides.queued, ?_⟩
  rw [transmissions_append, transmissions_append, besides.wrote]

end Traced.Besides

def Likeness.besides (noisy quiet : Bytes) :
    Likeness (Deaf (Traced QueueLink)) (Deaf (Traced QueueLink)) where
  links := Traced.Besides noisy quiet
  journals _ _ := True
  write bytes like := like.write bytes
  reset like := like.reset
  read _ like := .intro _ like
  wait like := .intro _ like
  resetLines _ := rfl
  note _ _ := trivial

theorem Likeness.Sessions.links {σ τ : Type} [Link σ] [Link τ] {likeness : Likeness σ τ}
    {left : Session σ} {right : Session τ} (like : likeness.Sessions left right) :
    likeness.links left.link right.link := by
  cases like with
  | intro plan stage operation tag hosts => exact hosts.channels.links

namespace Session

/-- The sessions differ in what is queued for them, and in nothing else that shows. -/
def Besides (noisy quiet : Bytes) (left right : Session (Traced QueueLink)) : Prop :=
  (Likeness.besides noisy quiet).Sessions left right

namespace Besides

variable {noisy quiet : Bytes} {left right : Session (Traced QueueLink)}

theorem intro (plan : left.plan = right.plan) (standing : left.standing = right.standing)
    (links : left.link.Besides noisy quiet right.link) : Besides noisy quiet left right := by
  obtain ⟨host, plan, stage, operation, tag⟩ := left
  obtain ⟨other, _, _, _, _⟩ := right
  cases plan
  obtain ⟨rfl, rfl, rfl, controller⟩ := Standing.mk.inj standing
  exact .intro plan stage operation tag ⟨controller, links, trivial⟩

theorem standing (besides : Besides noisy quiet left right) : left.standing = right.standing := by
  have like : (Likeness.besides noisy quiet).Sessions left right := besides
  exact like.standing_eq

theorem plan (besides : Besides noisy quiet left right) : left.plan = right.plan := by
  cases besides
  rfl

theorem links (besides : Besides noisy quiet left right) :
    left.link.Besides noisy quiet right.link := by
  have like : (Likeness.besides noisy quiet).Sessions left right := besides
  exact like.links

theorem onEvent (besides : Besides noisy quiet left right) (event : Event) :
    Agree (Besides noisy quiet) (left.onEvent event) (right.onEvent event) := by
  have like : (Likeness.besides noisy quiet).Sessions left right := besides
  have reacted := like.onEvent event
  rw [Deaf.onEvent_eq left, Deaf.onEvent_eq right] at reacted
  exact reacted

theorem perform (besides : Besides noisy quiet left right) {call : Call}
    (other : call ≠ .process) :
    (left.perform call).1 = (right.perform call).1 ∧
      Agree (Besides noisy quiet) (left.perform call).2 (right.perform call).2 := by
  have like : (Likeness.besides noisy quiet).Sessions left right := besides
  have made := like.perform call
  rw [Deaf.perform_eq left other, Deaf.perform_eq right other] at made
  exact made

end Besides

/-! ### One call -/

theorem transmissions_after (step : Step (Traced QueueLink)) :
    transmissions step.after.link.path = transmissions step.before.link.path ++ step.sent := by
  obtain ⟨path, taken, _⟩ := step.before.perform_moves step.call
  have whole : step.after.link.path = step.before.link.path ++ path :=
    Traced.path_eq_append taken
  rw [Step.sent_of_path whole, whole, transmissions_append]

theorem heard?_of_other {left right : Session (Traced QueueLink)} {call : Call}
    (other : call ≠ .process) : left.heard? call = right.heard? call := by
  cases call with
  | process => exact absurd rfl other
  | _ => rfl

theorem Besides.record_eq {noisy quiet newNoisy newQuiet : Bytes}
    {left right : Session (Traced QueueLink)} {call : Call}
    (before : Besides noisy quiet left right) (heard : left.heard? call = right.heard? call)
    (outcome : (left.perform call).1 = (right.perform call).1)
    (made : Agree (Besides newNoisy newQuiet) (left.perform call).2 (right.perform call).2) :
    Step.record ⟨left, call⟩ = Step.record ⟨right, call⟩ ∧
      Besides newNoisy newQuiet (left.after call) (right.after call) := by
  obtain ⟨notices, after⟩ := made.both
  replace after : Besides newNoisy newQuiet (left.after call) (right.after call) := after
  have sent : Step.sent ⟨left, call⟩ = Step.sent ⟨right, call⟩ := by
    -- What the call itself wrote is what is left when the earlier writes are taken away.
    have wrote := after.links.wrote
    change transmissions (Step.after ⟨left, call⟩).link.path =
      transmissions (Step.after ⟨right, call⟩).link.path at wrote
    rw [transmissions_after, transmissions_after, before.links.wrote] at wrote
    exact List.append_cancel_left wrote
  refine ⟨?_, after⟩
  unfold Step.record Step.heard? Step.notices Step.outcome Step.after
  dsimp only
  rw [before.standing, heard, sent, notices, outcome, after.standing]

theorem Besides.process {noisy quiet : Bytes} {left right : Session (Traced QueueLink)}
    (came : left.host.process.1 = right.host.process.1)
    (pumped : Besides noisy quiet left.pumped right.pumped) :
    (left.perform .process).1 = (right.perform .process).1 ∧
      Agree (Besides noisy quiet) (left.perform .process).2 (right.perform .process).2 := by
  change left.process.1 = right.process.1 ∧ Agree _ left.process.2 right.process.2
  refine ⟨by rw [process_outcome, process_outcome, came], ?_⟩
  cases answered : right.host.process.1 with
  | error fault =>
      rw [answered] at came
      obtain ⟨quietLeft, linkLeft, standingLeft⟩ := process_of_error came
      obtain ⟨quietRight, linkRight, standingRight⟩ := process_of_error answered
      have like : Besides noisy quiet left.process.2.2 right.process.2.2 := by
        apply Besides.intro
        · have plan := pumped.plan.trans (plan_after right .process).symm
          exact (plan_after left .process).trans plan
        · rw [standingLeft, standingRight, pumped.standing]
        · rw [linkLeft, linkRight]
          exact pumped.links
      -- Only the empty notices are left to compare, and they stand in pairs with the sessions.
      generalize left.process.2 = first at quietLeft like ⊢
      generalize right.process.2 = second at quietRight like ⊢
      obtain ⟨_, first⟩ := first
      obtain ⟨_, second⟩ := second
      cases quietLeft
      cases quietRight
      exact .intro _ like
  | ok event =>
      rw [answered] at came
      rw [process_of_event came, process_of_event answered]
      exact pumped.onEvent event

/-! ### What is received -/

theorem packet?_of_queued {session : Session (Traced QueueLink)} {bytes rest : Bytes}
    (complete : Complete bytes) (queued : session.link.link.pending = bytes ++ rest) :
    session.host.packet? = (Packet.contents bytes).toOption := by
  have taken := Traced.path_of_path (QueueLink.handover_path complete queued) session.link.path
  obtain ⟨_, received⟩ := Channel.receive_of_handover complete taken
  unfold Host.packet?
  rw [show session.host.channel.receive.1 = _ from received, Packet.contents_eq complete]
  cases Header.decode bytes with
  | error fault => rfl
  | ok header =>
      dsimp only [Except.map]
      cases Host.messageOf header <;> rfl

theorem Besides.pumped {noisy quiet newNoisy newQuiet : Bytes}
    {left right : Session (Traced QueueLink)} (besides : Besides noisy quiet left right)
    (known : left.host.process.2.controller = right.host.process.2.controller)
    (links : left.host.process.2.link.Besides newNoisy newQuiet right.host.process.2.link) :
    Besides newNoisy newQuiet left.pumped right.pumped := by
  refine .intro besides.plan ?_ links
  rw [standing_pumped, standing_pumped, besides.standing, known]

theorem Besides.receive {noisy quiet bytes : Bytes} {left right : Session (Traced QueueLink)}
    (besides : Besides (bytes ++ noisy) (bytes ++ quiet) left right) (complete : Complete bytes) :
    left.heard? .process = right.heard? .process ∧
      left.host.process.1 = right.host.process.1 ∧
      Besides noisy quiet left.pumped right.pumped := by
  have controller : left.host.controller = right.host.controller :=
    congrArg Standing.controller besides.standing
  have queuedLeft : left.link.link.pending = bytes ++ noisy := by rw [besides.links.links]
  have queuedRight : right.link.link.pending = bytes ++ quiet := besides.links.queued
  have pumpsLeft := Host.pumps_of_queued complete queuedLeft
  have pumpsRight := Host.pumps_of_queued complete queuedRight
  have same : left.host.process.1 = right.host.process.1 ∧
      left.host.process.2.controller = right.host.process.2.controller := by
    cases read : Packet.contents bytes with
    | error fault =>
        obtain ⟨cameLeft, keptLeft⟩ := pumpsLeft.failed fault read
        obtain ⟨cameRight, keptRight⟩ := pumpsRight.failed fault read
        exact ⟨cameLeft.trans cameRight.symm, keptLeft.trans (controller.trans keptRight.symm)⟩
    | ok packet =>
        obtain ⟨message, payload⟩ := packet
        obtain ⟨cameLeft, _, afterLeft⟩ := pumpsLeft.heard message payload read
        obtain ⟨cameRight, _, afterRight⟩ := pumpsRight.heard message payload read
        rw [controller] at cameLeft afterLeft
        exact ⟨cameLeft.trans cameRight.symm, afterLeft.trans afterRight.symm⟩
  refine ⟨?_, same.1, besides.pumped same.2 ?_⟩
  · have present := packet?_of_queued complete queuedRight
    exact (packet?_of_queued complete queuedLeft).trans present.symm
  · rw [pumpsLeft.consumed, pumpsRight.consumed]
    refine ⟨?_, rfl, ?_⟩
    · change ({ left.link.link with pending := noisy } : QueueLink) = _
      rw [besides.links.links]
      rfl
    · change transmissions (left.link.path ++ _) = transmissions (right.link.path ++ _)
      rw [transmissions_append, transmissions_append, besides.links.wrote]

theorem process_of_nothing {session : Session (Traced QueueLink)}
    (nothing : session.link.link.pending = []) :
    session.host.packet? = none ∧ session.host.process.1 = .error .timeout ∧
      session.host.process.2.controller = session.host.controller ∧
      session.host.process.2.link =
        ⟨session.link.link, session.link.path ++ [.wait (.error .timeout)]⟩ := by
  have waited : Link.wait session.link.link = (.error .timeout, session.link.link) :=
    if_pos nothing
  have traced : Link.wait session.link = ((Link.wait session.link.link).1,
      ⟨(Link.wait session.link.link).2,
        session.link.path ++ [.wait (Link.wait session.link.link).1]⟩) := rfl
  rw [waited] at traced
  exact Host.process_of_wait_error traced

theorem Besides.receive_nothing {left right : Session (Traced QueueLink)}
    (besides : Besides [] [] left right) :
    left.heard? .process = right.heard? .process ∧
      left.host.process.1 = right.host.process.1 ∧ Besides [] [] left.pumped right.pumped := by
  have controller : left.host.controller = right.host.controller :=
    congrArg Standing.controller besides.standing
  have queuedLeft : left.link.link.pending = [] := by rw [besides.links.links]
  obtain ⟨absentLeft, cameLeft, keptLeft, linkLeft⟩ := process_of_nothing queuedLeft
  obtain ⟨absentRight, cameRight, keptRight, linkRight⟩ := process_of_nothing besides.links.queued
  refine ⟨absentLeft.trans absentRight.symm, cameLeft.trans cameRight.symm, besides.pumped ?_ ?_⟩
  · rw [keptLeft, keptRight, controller]
  · rw [linkLeft, linkRight]
    refine ⟨besides.links.links, besides.links.queued, ?_⟩
    rw [transmissions_append, transmissions_append, besides.links.wrote]

/-! ### Noise -/

theorem process_of_noise {session : Session (Traced QueueLink)} {bytes rest : Bytes}
    (noise : IsNoise bytes) (queued : session.link.link.pending = bytes ++ rest) :
    session.process.2.1 = [] ∧ session.process.2.2.link = session.link.handed bytes rest ∧
      session.process.2.2.standing = session.standing := by
  have pumps := Host.pumps_of_queued noise.complete queued
  have link : session.pumped.link = session.link.handed bytes rest := pumps.consumed
  have standing (kept : session.host.process.2.controller = session.host.controller) :
      session.pumped.standing = session.standing := by
    rw [standing_pumped, kept]
    rfl
  cases noise with
  | foreign _ refused =>
      obtain ⟨failed, kept⟩ := pumps.failed _ refused
      obtain ⟨silent, left, stood⟩ := process_of_error failed
      exact ⟨silent, left.trans link, stood.trans (standing kept)⟩
  | credits _ read =>
      obtain ⟨came, _, kept⟩ := pumps.heard _ _ read
      rw [process_of_event came]
      exact ⟨rfl, link, standing kept⟩

theorem Besides.noise {noisy quiet bytes : Bytes} {left right : Session (Traced QueueLink)}
    (besides : Besides (bytes ++ noisy) quiet left right) (noise : IsNoise bytes) :
    (Step.record ⟨left, .process⟩).Idle ∧ Besides noisy quiet (left.after .process) right := by
  have queued : left.link.link.pending = bytes ++ noisy := by rw [besides.links.links]
  obtain ⟨silent, link, standing⟩ := process_of_noise noise queued
  have path : (left.after .process).link.path = left.link.path ++ handover bytes :=
    congrArg Traced.path link
  constructor
  · refine ⟨?_, silent, standing⟩
    exact (@Step.sent_of_path _ _ ⟨left, .process⟩ _ path).trans (transmissions_handover bytes)
  · apply Besides.intro
    · exact (plan_after left .process).trans besides.plan
    · exact standing.trans besides.standing
    · refine ⟨?_, besides.links.queued, ?_⟩
      · rw [show (left.after .process).link = _ from link]
        change ({ left.link.link with pending := noisy } : QueueLink) = _
        rw [besides.links.links]
      · rw [path, transmissions_append, transmissions_handover, List.append_nil,
          besides.links.wrote]

/-! ### Runs -/

theorem Besides.push {noisy quiet : Bytes} {left right : Session (Traced QueueLink)}
    (besides : Besides noisy quiet left right) (bytes : Bytes) :
    Besides (noisy ++ bytes) (quiet ++ bytes) (left.occur (.packet bytes))
      (right.occur (.packet bytes)) := by
  have links := besides.links
  refine .intro besides.plan besides.standing ⟨?_, ?_, links.wrote⟩
  · change ({ left.link.link with pending := left.link.link.pending ++ bytes } : QueueLink) = _
    rw [links.links]
    rfl
  · change right.link.link.pending ++ bytes = _
    rw [links.queued]

theorem Besides.push_noise {noisy quiet : Bytes} {left right : Session (Traced QueueLink)}
    (besides : Besides noisy quiet left right) (bytes : Bytes) :
    Besides (noisy ++ bytes) quiet (left.occur (.noise bytes)) right := by
  have links := besides.links
  refine .intro besides.plan besides.standing ⟨?_, links.queued, links.wrote⟩
  change ({ left.link.link with pending := left.link.link.pending ++ bytes } : QueueLink) = _
  rw [links.links]

theorem Besides.arm {noisy quiet : Bytes} {left right : Session (Traced QueueLink)}
    (besides : Besides noisy quiet left right) (shortWrites writeFailures : Nat) :
    Besides noisy quiet (left.occur (.arm shortWrites writeFailures))
      (right.occur (.arm shortWrites writeFailures)) := by
  have links := besides.links
  refine .intro besides.plan besides.standing ⟨?_, links.queued, links.wrote⟩
  change ({ left.link.link with shortWrites := _, writeFailures := _ } : QueueLink) = _
  rw [links.links]
  rfl

/-- From sessions that differ in nothing but the noise queued for one of them, the calls of the
application leave the same records, and nothing comes of the extra calls. -/
theorem play_of_scheduled {queue : List Queued} {script : List Occurrence}
    (scheduled : Scheduled queue script) {left right : Session (Traced QueueLink)}
    (besides : Besides (wire queue) (ownWire queue) left right) :
    left.play script = right.play (script.filter Occurrence.isOwn) ∧
      ∀ record ∈ left.asides script, record.Idle := by
  -- The schedule knows which packets wait, so the sessions are related along its queue.
  induction scheduled generalizing left right with
  | done queue => simp [play, asides]
  | @packet queue bytes rest complete _ ih =>
      apply ih
      rw [wire_concat, ownWire_concat_own]
      exact besides.push bytes
  | @noise queue bytes rest noise _ ih =>
      apply ih
      rw [wire_concat, ownWire_concat_noise]
      exact besides.push_noise bytes
  | arm shortWrites writeFailures _ ih => exact ih (besides.arm shortWrites writeFailures)
  | call other _ ih =>
      obtain ⟨outcome, made⟩ := besides.perform other
      obtain ⟨record, after⟩ := besides.record_eq (heard?_of_other other) outcome made
      obtain ⟨same, idle⟩ := ih after
      exact ⟨List.cons_eq_cons.mpr ⟨record, same⟩, idle⟩
  | nothing _ ih =>
      obtain ⟨heard, came, pumped⟩ := besides.receive_nothing
      obtain ⟨outcome, made⟩ := Besides.process came pumped
      obtain ⟨record, after⟩ := besides.record_eq heard outcome made
      obtain ⟨same, idle⟩ := ih after
      exact ⟨List.cons_eq_cons.mpr ⟨record, same⟩, idle⟩
  | @process queue bytes complete rest _ ih =>
      have shared : Besides (bytes ++ wire queue) (bytes ++ ownWire queue) left right := besides
      obtain ⟨heard, came, pumped⟩ := shared.receive complete
      obtain ⟨outcome, made⟩ := Besides.process came pumped
      obtain ⟨record, after⟩ := besides.record_eq heard outcome made
      obtain ⟨same, idle⟩ := ih after
      exact ⟨List.cons_eq_cons.mpr ⟨record, same⟩, idle⟩
  | @extra queue bytes noise rest _ ih =>
      have ahead : Besides (bytes ++ wire queue) (ownWire queue) left right := besides
      obtain ⟨idle, after⟩ := ahead.noise noise
      obtain ⟨same, others⟩ := ih after
      exact ⟨same, List.forall_mem_cons.mpr ⟨idle, others⟩⟩

/-- Noise leaves no trace.  Packets that say nothing may come in anywhere between the packets
of a stream, whatever the session is in the middle of.  If each of them is processed by an
extra call as soon as it is next, all calls of the application do what they would have done
without noise and extra calls: they find and leave the same standing, hear and write the same,
and give the same notices and outcomes. -/
theorem noise_leaves_no_trace (session : Session (Traced QueueLink)) (script : List Occurrence)
    (nothing : session.link.link.pending = []) (scheduled : Scheduled [] script) :
    session.play script = session.play (script.filter Occurrence.isOwn) ∧
      ∀ record ∈ session.asides script, record.Idle := by
  have same : Besides [] [] session session := .intro rfl rfl ⟨by rw [← nothing], nothing, rfl⟩
  exact play_of_scheduled scheduled same

def noisyBringUp : List Occurrence :=
  [ .call (.reset .keepConfig),
    .noise [0x50, 0x00, 0x00],
    .packet (Bench.resetResponse .ok),
    .extra,
    .call .process,
    .packet (Bench.initResponse .ok),
    .noise Bench.connectionCredits,
    .call .process,
    .call .discover,
    .extra ]

theorem noisyBringUp_scheduled : Scheduled [] noisyBringUp :=
  .call nofun (.noise (.foreign (by decide) rfl) (.packet (by decide) (.extra (.process
    (.packet (by decide) (.noise (.credits (by decide) rfl) (.process (.call nofun (.extra
      (.done []))))))))))

/-- The application hears that the reset is done, as if the two packets had not come. -/
theorem noise_leaves_no_trace_bringUp :
    let session := fresh (⟨{}, []⟩ : Traced QueueLink) none .standard
    session.link.link.pending = [] ∧ Scheduled [] noisyBringUp ∧
      session.play noisyBringUp =
        session.play
          [ .call (.reset .keepConfig), .packet (Bench.resetResponse .ok), .call .process,
            .packet (Bench.initResponse .ok), .call .process, .call .discover ] :=
  ⟨rfl, noisyBringUp_scheduled,
    (noise_leaves_no_trace (fresh ⟨{}, []⟩ none .standard) noisyBringUp rfl
      noisyBringUp_scheduled).1⟩

end Session
end NfcHost
