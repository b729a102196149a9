/-
Recovery.

A reset brings a session back from wherever it was left.  What follows is told over a
link in memory whose writes succeed: the packets that are processed after a reset may
be of any kind, and nothing comes of them but what the two responses bring about that
the reset waits for.
-/

import NfcHost.Bench.Packets
import NfcHost.Proofs.Pump
import NfcHost.Proofs.Run
import NfcHost.Proofs.Transition

namespace NfcHost

/-! ### Writes that succeed -/

namespace QueueLink

def Unarmed (link : QueueLink) : Prop :=
  link.shortWrites = 0 ∧ link.writeFailures = 0

theorem write_of_unarmed {link : QueueLink} (unarmed : link.Unarmed) (bytes : Bytes) :
    write bytes link = (.ok bytes.length, { link with sent := link.sent ++ [bytes] }) := by
  unfold write
  rw [unarmed.2]
  dsimp only
  rw [unarmed.1]

end QueueLink

def Traced.wrote (bytes : Bytes) (traced : Traced QueueLink) : Traced QueueLink :=
  ⟨{ traced.link with sent := traced.link.sent ++ [bytes] },
    traced.path ++ [.write bytes (.ok bytes.length)]⟩

theorem Traced.write_of_unarmed {traced : Traced QueueLink} (unarmed : traced.link.Unarmed)
    (bytes : Bytes) : Link.write bytes traced = (.ok bytes.length, traced.wrote bytes) :=
  congrArg (fun answer => (answer.1, Traced.mk answer.2 (traced.path ++ [.write bytes answer.1])))
    (QueueLink.write_of_unarmed unarmed bytes)

theorem Host.transmit_of_unarmed {host : Host (Traced QueueLink)} (unarmed : host.link.link.Unarmed)
    (line : Line) (bytes : Bytes) :
    (host.transmit line bytes).1 = .ok () ∧
      (host.transmit line bytes).2.link = host.link.wrote bytes :=
  Host.transmit_of_write (Traced.write_of_unarmed unarmed bytes) line

theorem Host.command_of_unarmed {host : Host (Traced QueueLink)} {command : Command} {bytes : Bytes}
    (unarmed : host.link.link.Unarmed) (permitted : host.controller.phase = command.phase)
    (encoded : command.encode = .ok bytes) :
    (host.command command).1 = .ok () ∧ (host.command command).2.link = host.link.wrote bytes := by
  unfold Host.command
  rw [if_pos permitted, encoded]
  exact host.transmit_of_unarmed unarmed _ bytes

theorem Host.sendData_of_unarmed {host : Host (Traced QueueLink)} {connection : UInt8}
    {data bytes : Bytes} (unarmed : host.link.link.Unarmed)
    (permitted : host.controller.phase = .pollActive)
    (encoded : (Packet.data connection data).map Packet.encode = .ok bytes) :
    (host.sendData connection data).1 = .ok () ∧
      (host.sendData connection data).2.link = host.link.wrote bytes := by
  unfold Host.sendData
  rw [if_pos permitted]
  cases built : Packet.data connection data with
  | error fault =>
      rw [built] at encoded
      cases encoded
  | ok packet =>
      rw [built] at encoded
      cases encoded
      exact host.transmit_of_unarmed unarmed _ packet.encode

namespace Session

theorem reset_of_unarmed {session : Session (Traced QueueLink)} (kind : ResetKind)
    (unarmed : session.link.link.Unarmed) :
    (session.reset kind).1 = .ok () ∧
      (session.reset kind).2.standing = { stage := .initReset, operation := .reset } ∧
      (session.reset kind).2.link = Traced.wrote [0x20, 0x00, 0x01, kind.code]
        ⟨{ session.link.link with sent := [], resets := session.link.link.resets + 1 },
          session.link.path ++ [.reset (.ok ())]⟩ := by
  have encoded : (Command.reset kind).encode = .ok [0x20, 0x00, 0x01, kind.code] := by
    cases kind <;> rfl
  unfold reset
  dsimp only
  generalize noted : (session.note (.info ("tags: reset from " ++ session.place))).host = host
  have sameLink : host.link = session.link := by rw [← noted]; rfl
  have resetting : ∃ after, host.hardReset = (.ok (), after) ∧ after.controller = {} ∧
      after.link = ⟨{ session.link.link with sent := [], resets := session.link.link.resets + 1 },
          session.link.path ++ [.reset (.ok ())]⟩ := by
    rw [← sameLink]
    exact ⟨_, rfl, rfl, rfl⟩
  obtain ⟨after, answered, cleared, link⟩ := resetting
  rw [answered]
  dsimp only
  have armless : after.link.link.Unarmed := by
    rw [link]
    exact unarmed
  have permitted : after.controller.phase = (Command.reset kind).phase := by
    rw [cleared]
    rfl
  obtain ⟨sent, wrote⟩ := Host.command_of_unarmed armless permitted encoded
  have kept := after.controller_command (.reset kind)
  rcases reported : after.command (.reset kind) with ⟨outcome, last⟩
  rw [reported] at sent wrote kept
  cases sent
  refine ⟨rfl, congrArg (Standing.mk .initReset .reset none) (kept.trans cleared), ?_⟩
  rw [link] at wrote
  exact wrote

/-! ### One event -/

section Event

variable {session : Session (Traced QueueLink)}

theorem onEvent_of_control {event : Event} (current : session.operation = .reset)
    (control : event.IsControl) :
    session.onEvent event =
      (session.note (.debug ("tags: " ++ event.name ++ " in " ++ session.place))).onResetEvent
        event := by
  have resetting (line : Line) : (session.note line).operation = .reset := current
  unfold onEvent
  dsimp only
  rw [resetting]
  cases event with
  | data connection payload => exact control.elim
  | connectionCredits => exact control.elim
  | _ => rfl

/-- Whatever is neither of the two responses is dropped. -/
theorem onEvent_of_stale {event : Event} (current : session.operation = .reset)
    (notReset : event.message ≠ .resetResponse) (notInit : event.message ≠ .initResponse) :
    (session.onEvent event).1 = [] ∧ (session.onEvent event).2.link = session.link ∧
      (session.onEvent event).2.standing = session.standing := by
  by_cases control : event.IsControl
  · -- Each branch but the last takes one of the two responses.
    rw [onEvent_of_control current control]
    unfold onResetEvent
    split
    all_goals
      first
      | exact absurd rfl notReset
      | exact absurd rfl notInit
      | exact ⟨rfl, rfl, rfl⟩
  · cases event with
    | data connection payload =>
        have other (line : Line) : ¬(session.note line).operation = .dump := by
          rw [show (session.note line).operation = .reset from current]
          exact nofun
        change (Session.onData _ connection payload).1 = [] ∧
          (Session.onData _ connection payload).2.link = _ ∧
          (Session.onData _ connection payload).2.standing = _
        unfold onData
        rw [if_neg (other _)]
        exact ⟨rfl, rfl, rfl⟩
    | connectionCredits => exact ⟨rfl, rfl, rfl⟩
    | _ => exact absurd trivial control

theorem sendNext_of_unarmed {command : Command} {bytes : Bytes}
    (notice : Except Setback Unit → Notice) (unarmed : session.link.link.Unarmed)
    (permitted : session.host.controller.phase = command.phase)
    (encoded : command.encode = .ok bytes) :
    (session.sendNext command notice).1 = [] ∧
      (session.sendNext command notice).2.link = session.link.wrote bytes ∧
      (session.sendNext command notice).2.standing = session.standing := by
  obtain ⟨sent, wrote⟩ := Host.command_of_unarmed unarmed permitted encoded
  have kept := session.host.controller_command command
  unfold sendNext
  rcases answered : session.host.command command with ⟨outcome, host⟩
  rw [answered] at sent wrote kept
  cases sent
  exact ⟨rfl, wrote, congrArg (Standing.mk session.stage session.operation session.tag) kept⟩

theorem onEvent_reset {report : ResetReport} (current : session.operation = .reset)
    (stage : session.stage = .initReset) (permitted : session.host.controller.phase = .reset)
    (unarmed : session.link.link.Unarmed) :
    (session.onEvent (.reset (.ok report))).1 = [] ∧
      (session.onEvent (.reset (.ok report))).2.link = session.link.wrote [0x20, 0x01, 0x00] ∧
      (session.onEvent (.reset (.ok report))).2.standing =
        { session.standing with stage := .initInit } := by
  have control : (Event.reset (.ok report)).IsControl := trivial
  have started (line : Line) : (session.note line).stage = .initReset := stage
  rw [onEvent_of_control current control]
  unfold onResetEvent
  rw [started]
  exact sendNext_of_unarmed .reset unarmed permitted rfl

theorem onEvent_init (current : session.operation = .reset) (stage : session.stage = .initInit) :
    (session.onEvent (.init (.ok ()))).1 = [.reset (.ok ())] ∧
      (session.onEvent (.init (.ok ()))).2.link = session.link ∧
      (session.onEvent (.init (.ok ()))).2.standing =
        { session.standing with stage := .initDone } := by
  have control : (Event.init (.ok ())).IsControl := trivial
  have started (line : Line) : (session.note line).stage = .initInit := stage
  rw [onEvent_of_control current control]
  unfold onResetEvent
  rw [started]
  exact ⟨rfl, rfl, rfl⟩

end Event

end Session

/-! ### One packet -/

/-- A packet that holds neither of the two responses a reset waits for. -/
structure IsStale (bytes : Bytes) : Prop where
  complete : Complete bytes
  other : ∀ message payload, Packet.contents bytes = .ok (message, payload) →
    message ≠ .resetResponse ∧ message ≠ .initResponse

theorem IsStale.of_error {bytes : Bytes} {fault : Fault} (complete : Complete bytes)
    (read : Packet.contents bytes = .error fault) : IsStale bytes :=
  ⟨complete, fun _ _ known => nomatch read.symm.trans known⟩

theorem IsStale.of_message {bytes payload : Bytes} {message : Message} (complete : Complete bytes)
    (read : Packet.contents bytes = .ok (message, payload)) (notReset : message ≠ .resetResponse)
    (notInit : message ≠ .initResponse) : IsStale bytes := by
  refine ⟨complete, fun other content known => ?_⟩
  cases read.symm.trans known
  exact ⟨notReset, notInit⟩

structure IsResetOk (bytes : Bytes) : Prop where
  complete : Complete bytes
  reads : ∃ version config, Packet.contents bytes = .ok (.resetResponse, [0, version, config])

structure IsInitOk (bytes : Bytes) : Prop where
  complete : Complete bytes
  reads : ∃ details, Packet.contents bytes = .ok (.initResponse, 0 :: details) ∧
    16 ≤ details.length

def Traced.handed (bytes rest : Bytes) (traced : Traced QueueLink) : Traced QueueLink :=
  ⟨{ traced.link with pending := rest }, traced.path ++ handover bytes⟩

theorem transmissions_handover (bytes : Bytes) : transmissions (handover bytes) = [] := by
  unfold handover
  split <;> rfl

theorem Host.pumps_of_queued {host : Host (Traced QueueLink)} {bytes rest : Bytes}
    (complete : Complete bytes) (queued : host.link.link.pending = bytes ++ rest) :
    host.Pumps bytes (host.link.handed bytes rest) :=
  pumps_of_handover complete
    (Traced.path_of_path (QueueLink.handover_path complete queued) host.link.path)

/-- Before it is ready a controller takes nothing but the two responses. -/
theorem Controller.receive_of_stale {controller : Controller} {message : Message}
    (early : controller.phase = .down ∨ controller.phase = .reset)
    (notReset : message ≠ .resetResponse) (notInit : message ≠ .initResponse) (payload : Bytes) :
    (controller.receive message payload).controller = controller := by
  have heard := controller.receive_hears message payload
  have stems := controller.receive_message message payload
  have left {phase : Phase} (present : controller.phase = phase) :
      phase = .down ∨ phase = .reset := by
    rw [← present]
    exact early
  -- What is heard in a later phase cannot be heard yet.
  generalize (controller.receive message payload).event = event at heard stems
  generalize (controller.receive message payload).controller = after at heard
  cases heard with
  | data connection payload => rfl
  | connectionCredits => rfl
  | refused failed => rfl
  | reset report present => exact absurd stems.symm notReset
  | init details present => exact absurd stems.symm notInit
  | discoverMap present => rfl
  | discover present => exact absurd (left present) (by decide)
  | activated activation present => exact absurd (left present) (by decide)
  | deactivate present => exact absurd (left present) (by decide)
  | deactivated deactivation present => exact absurd (left present) (by decide)

namespace Session

/-- The session is in the middle of a reset, over a link whose writes succeed. -/
structure Resetting (session : Session (Traced QueueLink)) (stage : Stage)
    (controller : Controller) (queue : Bytes) : Prop where
  standing : session.standing = { stage := stage, operation := .reset, controller := controller }
  unarmed : session.link.link.Unarmed
  queued : session.link.link.pending = queue

variable {session : Session (Traced QueueLink)} {stage : Stage} {controller : Controller}
  {bytes rest : Bytes}

theorem process_of_error {fault : Fault} (failed : session.host.process.1 = .error fault) :
    session.process.2.1 = [] ∧ session.process.2.2.link = session.pumped.link ∧
      session.process.2.2.standing = session.pumped.standing := by
  rw [process_of_fault failed]
  exact ⟨rfl, rfl, rfl⟩

theorem Resetting.operation {queue : Bytes}
    (resetting : session.Resetting stage controller queue) : session.operation = .reset :=
  congrArg Standing.operation resetting.standing

theorem Resetting.present {queue : Bytes}
    (resetting : session.Resetting stage controller queue) : session.stage = stage :=
  congrArg Standing.stage resetting.standing

theorem Resetting.known {queue : Bytes}
    (resetting : session.Resetting stage controller queue) : session.host.controller = controller :=
  congrArg Standing.controller resetting.standing

theorem Resetting.of_link {after : Session (Traced QueueLink)} {next : Stage} {queue : Bytes}
    (resetting : session.Resetting stage controller queue) (link : after.link = session.link)
    (standing : after.standing =
      { stage := next, operation := .reset, controller := controller }) :
    after.Resetting next controller queue := by
  refine ⟨standing, ?_, ?_⟩
  · rw [link]
    exact resetting.unarmed
  · rw [link]
    exact resetting.queued

theorem Resetting.pumped {after : Controller}
    (resetting : session.Resetting stage controller (bytes ++ rest)) (complete : Complete bytes)
    (kept : session.host.process.2.controller = after) :
    session.pumped.Resetting stage after rest ∧
      session.pumped.link.path = session.link.path ++ handover bytes := by
  have pumps := Host.pumps_of_queued complete resetting.queued
  have link : session.pumped.link = session.link.handed bytes rest := pumps.consumed
  refine ⟨⟨?_, ?_, ?_⟩, ?_⟩
  · rw [standing_pumped, resetting.standing, kept]
  · rw [link]
    exact resetting.unarmed
  · rw [link]
    rfl
  · rw [link]
    rfl

theorem process_of_stale (resetting : session.Resetting stage controller (bytes ++ rest))
    (early : controller.phase = .down ∨ controller.phase = .reset) (stale : IsStale bytes) :
    session.process.2.1 = [] ∧ session.process.2.2.Resetting stage controller rest ∧
      session.process.2.2.link.path = session.link.path ++ handover bytes := by
  have pumps := Host.pumps_of_queued stale.complete resetting.queued
  -- Whether there is a message or not, the session stays as the pump leaves it.
  suffices left : session.host.process.2.controller = controller ∧ session.process.2.1 = [] ∧
      session.process.2.2.link = session.pumped.link ∧
      session.process.2.2.standing = session.pumped.standing by
    obtain ⟨kept, silent, link, standing⟩ := left
    obtain ⟨after, path⟩ := resetting.pumped stale.complete kept
    refine ⟨silent, after.of_link link (standing.trans after.standing), ?_⟩
    rw [link, path]
  cases read : Packet.contents bytes with
  | error fault =>
      obtain ⟨failed, kept⟩ := pumps.failed fault read
      exact ⟨kept.trans resetting.known, process_of_error failed⟩
  | ok contents =>
      obtain ⟨message, payload⟩ := contents
      obtain ⟨notReset, notInit⟩ := stale.other message payload read
      obtain ⟨came, stems, kept⟩ := pumps.heard message payload read
      rw [← resetting.known] at early
      rw [Controller.receive_of_stale early notReset notInit] at kept
      refine ⟨kept.trans resetting.known, ?_⟩
      have current : session.pumped.operation = .reset := resetting.operation
      rw [process_of_event came]
      apply onEvent_of_stale current
      · rw [stems]
        exact notReset
      · rw [stems]
        exact notInit

theorem process_of_resetOk (resetting : session.Resetting .initReset controller (bytes ++ rest))
    (down : controller.phase = .down) (packet : IsResetOk bytes) :
    ∃ report, session.process.2.1 = [] ∧
      session.process.2.2.Resetting .initInit
        { controller with phase := .reset, resetReport := some report } rest ∧
      session.process.2.2.link.path =
        session.link.path ++ handover bytes ++ [.write [0x20, 0x01, 0x00] (.ok 3)] := by
  obtain ⟨version, config, reads⟩ := packet.reads
  have pumps := Host.pumps_of_queued packet.complete resetting.queued
  obtain ⟨came, _, kept⟩ := pumps.heard .resetResponse [0, version, config] reads
  obtain ⟨event, after⟩ := (Controller.Transition.reset version config down).eq_receive
  rw [resetting.known, ← event] at came
  rw [resetting.known, ← after] at kept
  obtain ⟨moved, path⟩ := resetting.pumped packet.complete kept
  have permitted : session.pumped.host.controller.phase = .reset := by rw [moved.known]
  obtain ⟨silent, link, standing⟩ :=
    onEvent_reset moved.operation moved.present permitted moved.unarmed
  refine ⟨⟨version, .ofCode config⟩, ?_⟩
  rw [process_of_event came]
  refine ⟨silent, ⟨?_, ?_, ?_⟩, ?_⟩
  · rw [standing, moved.standing]
  · rw [link]
    exact moved.unarmed
  · rw [link]
    exact moved.queued
  · rw [link, ← path]
    rfl

theorem process_of_initOk (resetting : session.Resetting .initInit controller (bytes ++ rest))
    (waits : controller.phase = .reset) (packet : IsInitOk bytes) :
    ∃ found, session.process.2.1 = [.reset (.ok ())] ∧
      session.process.2.2.Resetting .initDone
        { controller with phase := .idle, capabilities := found } rest ∧
      session.process.2.2.link.path = session.link.path ++ handover bytes := by
  obtain ⟨details, reads, size⟩ := packet.reads
  have pumps := Host.pumps_of_queued packet.complete resetting.queued
  obtain ⟨came, _, kept⟩ := pumps.heard .initResponse (0 :: details) reads
  obtain ⟨event, after⟩ := (Controller.Transition.init waits size).eq_receive
  rw [resetting.known, ← event] at came
  rw [resetting.known, ← after] at kept
  obtain ⟨moved, path⟩ := resetting.pumped packet.complete kept
  obtain ⟨told, link, standing⟩ := onEvent_init moved.operation moved.present
  refine ⟨(Capabilities.details (0 :: details)).toOption, ?_⟩
  rw [process_of_event came]
  refine ⟨told, moved.of_link link ?_, ?_⟩
  · rw [standing, moved.standing]
  · rw [link, path]

/-! ### Stretches of a run -/

/-- What a session does in some turns. -/
structure Stretch (session : Session (Traced QueueLink)) (turns : List (Turn QueueLink))
    (sent : List Transmission) (notices : List Notice) (after : Session (Traced QueueLink)) :
    Prop where
  ends : session.run (turns.map Turn.traced) = after
  sends : ((session.records turns).flatMap fun record => record.deed.sent) = sent
  tells : ((session.records turns).flatMap fun record => record.deed.notices) = notices

theorem records_append (session : Session (Traced QueueLink))
    (first second : List (Turn QueueLink)) :
    session.records (first ++ second) =
      session.records first ++ (session.run (first.map Turn.traced)).records second := by
  rw [records, List.map_append, steps_append, List.map_append]
  rfl

theorem Stretch.nil (session : Session (Traced QueueLink)) : session.Stretch [] [] [] session :=
  ⟨rfl, rfl, rfl⟩

theorem Stretch.append {first second : List (Turn QueueLink)}
    {middle after : Session (Traced QueueLink)} {sent more : List Transmission}
    {notices further : List Notice}
    (left : session.Stretch first sent notices middle)
    (right : middle.Stretch second more further after) :
    session.Stretch (first ++ second) (sent ++ more) (notices ++ further) after := by
  have records : session.records (first ++ second) =
      session.records first ++ middle.records second := by
    rw [records_append, left.ends]
  refine ⟨?_, ?_, ?_⟩
  · rw [List.map_append, run_append, left.ends, right.ends]
  · rw [records, List.flatMap_append, left.sends, right.sends]
  · rw [records, List.flatMap_append, left.tells, right.tells]

theorem Stretch.single {turn : Turn QueueLink} {path : List Exchange} {notices : List Notice}
    (told : ((session.meanwhile turn.traced.meanwhile).perform turn.call).2.1 = notices)
    (taken : ((session.meanwhile turn.traced.meanwhile).after turn.call).link.path =
      session.link.path ++ path) :
    session.Stretch [turn] (transmissions path) notices
      ((session.meanwhile turn.traced.meanwhile).after turn.call) := by
  let made : Step (Traced QueueLink) := ⟨session.meanwhile turn.traced.meanwhile, turn.call⟩
  have sent : made.sent = transmissions path := Step.sent_of_path taken
  rw [← sent, ← told]
  exact ⟨rfl, List.append_nil _, List.append_nil _⟩

def processing (push : Bytes) : Turn QueueLink :=
  ⟨.push push, .process⟩

theorem Resetting.meanwhile {queue : Bytes} (resetting : session.Resetting stage controller queue)
    (push : Bytes) :
    (session.meanwhile (processing push).traced.meanwhile).Resetting stage controller
      (queue ++ push) :=
  ⟨resetting.standing, resetting.unarmed, congrArg (· ++ push) resetting.queued⟩

/-- The packets come in this order, whatever is queued beforehand and whatever is pushed
before each of them is processed. -/
inductive Arrives : Bytes → List Bytes → List Bytes → Bytes → Prop
  | nil (queue : Bytes) : Arrives queue [] [] queue
  | cons {queue push packet rest last : Bytes} {pushes packets : List Bytes}
      (next : queue ++ push = packet ++ rest) (later : Arrives rest pushes packets last) :
      Arrives queue (push :: pushes) (packet :: packets) last

theorem Arrives.split {queue last : Bytes} {pushes early late : List Bytes}
    (arrives : Arrives queue pushes (early ++ late) last) :
    ∃ before after middle, pushes = before ++ after ∧ Arrives queue before early middle ∧
      Arrives middle after late last := by
  induction early generalizing queue pushes with
  | nil => exact ⟨[], pushes, queue, rfl, .nil queue, arrives⟩
  | cons packet early ih =>
      cases arrives with
      | cons next later =>
          obtain ⟨before, after, middle, rfl, left, right⟩ := ih later
          exact ⟨_ :: before, after, middle, rfl, .cons next left, right⟩

theorem Resetting.stale_stretch {queue last : Bytes} {pushes packets : List Bytes}
    (resetting : session.Resetting stage controller queue)
    (early : controller.phase = .down ∨ controller.phase = .reset)
    (arrives : Arrives queue pushes packets last) (stale : ∀ packet ∈ packets, IsStale packet) :
    ∃ after, session.Stretch (pushes.map processing) [] [] after ∧
      after.Resetting stage controller last := by
  -- A stale packet keeps the session in the middle of its reset, so the rest finds the
  -- same session with a shorter queue.
  induction arrives generalizing session with
  | nil queue => exact ⟨session, .nil session, resetting⟩
  | @cons queue push packet rest last pushes packets next _ ih =>
      obtain ⟨first, later⟩ := List.forall_mem_cons.mp stale
      have ready := resetting.meanwhile push
      rw [next] at ready
      obtain ⟨silent, left, path⟩ := process_of_stale ready early first
      have turn : session.Stretch [processing push] (transmissions (handover packet)) [] _ :=
        .single silent path
      rw [transmissions_handover] at turn
      obtain ⟨after, stretch, resetting⟩ := ih left later
      exact ⟨after, turn.append stretch, resetting⟩

theorem Resetting.resetOk_stretch {queue push packet : Bytes}
    (resetting : session.Resetting .initReset {} queue) (next : queue ++ push = packet ++ rest)
    (ok : IsResetOk packet) :
    ∃ after report,
      session.Stretch [processing push] [⟨[0x20, 0x01, 0x00], .ok 3⟩] [] after ∧
      after.Resetting .initInit { phase := .reset, resetReport := some report } rest := by
  have ready := resetting.meanwhile push
  rw [next] at ready
  obtain ⟨report, silent, left, path⟩ := process_of_resetOk ready rfl ok
  have turn : session.Stretch [processing push] _ [] _ :=
    .single silent (path.trans (List.append_assoc ..))
  rw [transmissions_append, transmissions_handover] at turn
  exact ⟨_, report, turn, left⟩

theorem Resetting.initOk_stretch {queue push packet : Bytes}
    (resetting : session.Resetting .initInit controller queue) (waits : controller.phase = .reset)
    (next : queue ++ push = packet ++ rest) (ok : IsInitOk packet) :
    ∃ after found,
      session.Stretch [processing push] [] [.reset (.ok ())] after ∧
      after.Resetting .initDone { controller with phase := .idle, capabilities := found } rest := by
  have ready := resetting.meanwhile push
  rw [next] at ready
  obtain ⟨found, told, left, path⟩ := process_of_initOk ready waits ok
  have turn : session.Stretch [processing push] _ [.reset (.ok ())] _ := .single told path
  rw [transmissions_handover] at turn
  exact ⟨_, found, turn, left⟩

theorem reset_stretch (kind : ResetKind) (unarmed : session.link.link.Unarmed) :
    session.Stretch [⟨id, .reset kind⟩] [⟨[0x20, 0x00, 0x01, kind.code], .ok 4⟩] []
        (session.reset kind).2 ∧
      (session.reset kind).2.Resetting .initReset {} session.link.link.pending := by
  obtain ⟨_, standing, link⟩ := reset_of_unarmed kind unarmed
  constructor
  · have path : (session.reset kind).2.link.path = session.link.path ++
        [.reset (.ok ()), .write [0x20, 0x00, 0x01, kind.code] (.ok 4)] := by
      rw [link]
      exact List.append_assoc ..
    exact @Stretch.single session ⟨id, .reset kind⟩ _ _ rfl path
  · refine ⟨standing, ?_, ?_⟩
    · rw [link]
      exact unarmed
    · rw [link]
      rfl

/-- What comes after a reset: packets of any kind but the two responses, the first
response, packets of any kind again, and the second response. -/
structure BringUp (queued : Bytes) where
  pushes : List Bytes
  early : List Bytes
  resetPacket : Bytes
  late : List Bytes
  initPacket : Bytes
  rest : Bytes
  arrives : Arrives queued pushes (early ++ resetPacket :: (late ++ [initPacket])) rest
  early_stale : ∀ packet ∈ early, IsStale packet
  resetPacket_ok : IsResetOk resetPacket
  late_stale : ∀ packet ∈ late, IsStale packet
  initPacket_ok : IsInitOk initPacket

theorem Resetting.bringUp_stretch {queue : Bytes}
    (resetting : session.Resetting .initReset {} queue) (bringUp : BringUp queue) :
    ∃ after report found,
      session.Stretch (bringUp.pushes.map processing) [⟨[0x20, 0x01, 0x00], .ok 3⟩]
        [.reset (.ok ())] after ∧
      after.Resetting .initDone
        { phase := .idle, resetReport := some report, capabilities := found } bringUp.rest := by
  obtain ⟨before, _, _, shown, early, onward⟩ := bringUp.arrives.split
  cases onward with
  | cons next onward =>
  obtain ⟨between, _, _, rfl, late, final⟩ := onward.split
  cases final with
  | cons last ended =>
  cases ended
  -- Four stretches, each from where the one before has led.
  obtain ⟨_, first, resetting⟩ := resetting.stale_stretch (.inl rfl) early bringUp.early_stale
  obtain ⟨_, report, second, resetting⟩ := resetting.resetOk_stretch next bringUp.resetPacket_ok
  obtain ⟨_, third, resetting⟩ := resetting.stale_stretch (.inr rfl) late bringUp.late_stale
  obtain ⟨after, found, fourth, resetting⟩ :=
    resetting.initOk_stretch rfl last bringUp.initPacket_ok
  refine ⟨after, report, found, ?_, resetting⟩
  have whole := first.append (second.append (third.append fourth))
  rw [shown, List.map_append, List.map_cons, List.map_append]
  exact whole

/-- A reset brings a session back from anywhere.  It leaves the session where it leaves a
new one, and sends its command and nothing else.  Once the two responses have come, with
whatever packets before and between them, the session is ready: it has sent one further
command, and the only notice tells that the reset is done. -/
theorem reset_recovers (session : Session (Traced QueueLink)) (kind : ResetKind)
    (unarmed : session.link.link.Unarmed) :
    (session.reset kind).1 = .ok () ∧
      (∀ threshold plan, (session.reset kind).2.standing =
        ((fresh (⟨{}, []⟩ : Traced QueueLink) threshold plan).reset kind).2.standing) ∧
      session.Stretch [⟨id, .reset kind⟩] [⟨[0x20, 0x00, 0x01, kind.code], .ok 4⟩] []
        (session.reset kind).2 ∧
      ∀ bringUp : BringUp session.link.link.pending, ∃ after,
        session.Stretch (⟨id, .reset kind⟩ :: bringUp.pushes.map processing)
          [⟨[0x20, 0x00, 0x01, kind.code], .ok 4⟩, ⟨[0x20, 0x01, 0x00], .ok 3⟩]
          [.reset (.ok ())] after ∧
        after.stage = .initDone ∧ after.tag = none ∧ after.host.controller.phase = .idle ∧
        after.host.controller.activation = none ∧ after.host.controller.deactivation = none := by
  obtain ⟨done, standing, _⟩ := reset_of_unarmed kind unarmed
  obtain ⟨stretch, resetting⟩ := reset_stretch kind unarmed
  refine ⟨done, fun threshold plan => ?_, stretch, fun bringUp => ?_⟩
  · have armless : (fresh (⟨{}, []⟩ : Traced QueueLink) threshold plan).link.link.Unarmed :=
      ⟨rfl, rfl⟩
    rw [standing, (reset_of_unarmed kind armless).2.1]
  · obtain ⟨after, report, found, further, ready⟩ := resetting.bringUp_stretch bringUp
    have bare : after.tag = none := congrArg Standing.tag ready.standing
    refine ⟨after, stretch.append further, ready.present, bare, ?_, ?_, ?_⟩
    · rw [ready.known]
    · rw [ready.known]
    · rw [ready.known]

def abandoned : Session (Traced QueueLink) :=
  let turns : List (Turn QueueLink) :=
    [ ⟨id, .reset .keepConfig⟩,
      processing (Bench.resetResponse .ok),
      processing (Bench.initResponse .ok),
      ⟨id, .discover⟩,
      processing (Bench.discoverMapResponse .ok),
      ⟨.push (Bench.discoverResponse .ok ++ Bench.data 0 [0x01]), .discover⟩ ]
  (fresh (⟨{}, []⟩ : Traced QueueLink) none .standard).run (turns.map Turn.traced)

/-- The two queued packets are dropped, and so is a segmented one between the responses. -/
def abandonedBringUp : BringUp abandoned.link.link.pending where
  pushes := [[], [], Bench.resetResponse .ok, [0x50, 0x00, 0x00], Bench.initResponse .ok]
  early := [Bench.discoverResponse .ok, Bench.data 0 [0x01]]
  resetPacket := Bench.resetResponse .ok
  late := [[0x50, 0x00, 0x00]]
  initPacket := Bench.initResponse .ok
  rest := []
  arrives := .cons rfl (.cons rfl (.cons rfl (.cons rfl (.cons rfl (.nil [])))))
  early_stale :=
    List.forall_mem_cons.mpr ⟨.of_message (by decide) rfl nofun nofun,
      List.forall_mem_singleton.mpr (.of_message (by decide) rfl nofun nofun)⟩
  resetPacket_ok := ⟨by decide, 0x10, 0x00, rfl⟩
  late_stale := List.forall_mem_singleton.mpr (.of_error (by decide) rfl)
  initPacket_ok := ⟨by decide, _, rfl, by decide⟩

theorem reset_recovers_abandoned :
    abandoned.link.link.Unarmed ∧ abandoned.stage = .discover ∧
      ∃ after,
        abandoned.Stretch (⟨id, .reset .keepConfig⟩ :: abandonedBringUp.pushes.map processing)
          [⟨[0x20, 0x00, 0x01, 0x00], .ok 4⟩, ⟨[0x20, 0x01, 0x00], .ok 3⟩] [.reset (.ok ())]
          after ∧
        after.stage = .initDone := by
  have unarmed : abandoned.link.link.Unarmed := ⟨rfl, rfl⟩
  obtain ⟨_, _, _, recovers⟩ := reset_recovers abandoned .keepConfig unarmed
  obtain ⟨after, stretch, ready, _⟩ := recovers abandonedBringUp
  exact ⟨unarmed, rfl, after, stretch, ready⟩

end Session
end NfcHost
