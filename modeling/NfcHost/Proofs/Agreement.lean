/-
Two links, one host.

Over a link that does not fail a host is a machine of its own: what it replies, what it
knows of the controller and what it writes follows from the packets that came in and from
what it was told.  A link in memory does not fail, and neither does the link to a controller
on a board whose bus and lines work.  So a host cannot tell the one from the other.
-/

import NfcHost.Board.Scripted
import NfcHost.Link.Pn7120
import NfcHost.Proofs.Knowledge
import NfcHost.Proofs.Recovery
import NfcHost.Proofs.Submission

namespace NfcHost

/-! ### Schedules -/

structure Appointment where
  arrivals : List Bytes
  task : Task

def Appointment.errand {σ : Type} (offer : Bytes → σ → σ) (appointment : Appointment) :
    Errand σ where
  meanwhile link := appointment.arrivals.foldl (fun link bytes => offer bytes link) link
  task := appointment.task

/-- There is a packet whenever one is processed, if so many are waiting at first. -/
def Supplied : Nat → List Appointment → Prop
  | _, [] => True
  | waiting, appointment :: rest =>
      match appointment.task with
      | .instruct _ => Supplied (waiting + appointment.arrivals.length) rest
      | .process =>
          0 < waiting + appointment.arrivals.length ∧
            Supplied (waiting + appointment.arrivals.length - 1) rest

inductive Reply where
  | done (outcome : Except Fault Unit)
  | event (outcome : Except Fault Event)

namespace Host

variable {σ : Type} [Link σ]

def reply (host : Host σ) : Task → Reply
  | .instruct .hardReset => .done host.hardReset.1
  | .instruct (.command command) => .done (host.command command).1
  | .instruct (.data connection payload) => .done (host.sendData connection payload).1
  | .process => .event host.process.1

/-- The reply to every errand, and what is known of the controller after it. -/
def trail : Host σ → List (Errand σ) → List (Reply × Controller)
  | _, [] => []
  | host, errand :: rest =>
      let met := host.meanwhile errand.meanwhile
      (met.reply errand.task, (met.perform errand.task).controller) ::
        (met.perform errand.task).trail rest

end Host

/-! ### The host as a machine of its own -/

/-- What becomes of a task where the link does not fail: a reply, a controller, and the
frame that is written, if there is one. -/
structure Performance where
  reply : Reply
  controller : Controller
  frame : Option Bytes

namespace Controller

def asked (controller : Controller) (request : Request) : Performance :=
  if controller.phase = request.phase then
    match request.encode with
    | .error fault => ⟨.done (.error fault), controller, none⟩
    | .ok bytes => ⟨.done (.ok ()), controller, some bytes⟩
  else
    ⟨.done (.error .rejected), controller, none⟩

def instructed (controller : Controller) : Instruction → Performance
  | .hardReset => ⟨.done (.ok ()), {}, none⟩
  | .command command => controller.asked (.command command)
  | .data connection payload => controller.asked (.data connection payload)

def pumped (controller : Controller) (bytes : Bytes) : Performance :=
  match Packet.contents bytes with
  | .error fault => ⟨.event (.error fault), controller, none⟩
  | .ok (message, payload) =>
      let reception := controller.receive message payload
      ⟨.event (.ok reception.event), reception.controller, none⟩

def journey : Controller → List Bytes → List Appointment → List Performance
  | _, _, [] => []
  | controller, waiting, appointment :: rest =>
      match appointment.task, waiting ++ appointment.arrivals with
      | .instruct instruction, waiting =>
          let performance := controller.instructed instruction
          performance :: performance.controller.journey waiting rest
      | .process, bytes :: waiting =>
          let performance := controller.pumped bytes
          performance :: performance.controller.journey waiting rest
      | .process, [] => []

theorem journey_process {controller : Controller} {waiting arrivals left : List Bytes}
    {bytes : Bytes} (rest : List Appointment) (standing : waiting ++ arrivals = bytes :: left) :
    controller.journey waiting (⟨arrivals, .process⟩ :: rest) =
      controller.pumped bytes :: (controller.pumped bytes).controller.journey left rest := by
  rw [journey]
  dsimp only
  rw [standing]

end Controller

/-! ### Links that do not fail -/

/-- Packets wait on the link in order, and it takes whatever is written.  The ledger is what
the link shows of the frames that were written and of its resets. -/
structure Reliable (σ : Type) [Link σ] (Ledger : Type) where
  holds : σ → List Bytes → Prop
  ledger : σ → Ledger
  offer : Bytes → σ → σ
  wrote : Bytes → Ledger → Ledger
  cleared : Ledger → Ledger
  offers : ∀ {link waiting bytes}, Complete bytes → holds link waiting →
    holds (offer bytes link) (waiting ++ [bytes]) ∧ ledger (offer bytes link) = ledger link
  writes : ∀ {link waiting} bytes, holds link waiting →
    ∃ after, Link.write bytes link = (.ok bytes.length, after) ∧ holds after waiting ∧
      ledger after = wrote bytes (ledger link)
  resets : ∀ {link waiting}, holds link waiting →
    ∃ after, Link.reset link = (.ok (), after) ∧ holds after waiting ∧
      ledger after = cleared (ledger link)
  hands : ∀ {link waiting bytes}, Complete bytes → holds link (bytes :: waiting) →
    ∃ after, Path link (handover bytes) after ∧ holds after waiting ∧ ledger after = ledger link

namespace Reliable

variable {σ Ledger : Type} [Link σ]

def entered (reliable : Reliable σ Ledger) (task : Task) (frame : Option Bytes)
    (ledger : Ledger) : Ledger :=
  let ledger := match task with
    | .instruct .hardReset => reliable.cleared ledger
    | _ => ledger
  match frame with
  | none => ledger
  | some bytes => reliable.wrote bytes ledger

/-- The host performs the task as the machine does, and leaves these packets waiting. -/
structure Does (reliable : Reliable σ Ledger) (host : Host σ) (task : Task)
    (performance : Performance) (waiting : List Bytes) : Prop where
  reply : host.reply task = performance.reply
  controller : (host.perform task).controller = performance.controller
  holds : reliable.holds (host.perform task).link waiting
  ledger : reliable.ledger (host.perform task).link =
    reliable.entered task performance.frame (reliable.ledger host.link)

variable {reliable : Reliable σ Ledger} {host : Host σ} {waiting : List Bytes}

theorem transmits (holds : reliable.holds host.link waiting) (line : Line) (bytes : Bytes) :
    (host.transmit line bytes).1 = .ok () ∧
      reliable.holds (host.transmit line bytes).2.link waiting ∧
      reliable.ledger (host.transmit line bytes).2.link =
        reliable.wrote bytes (reliable.ledger host.link) := by
  obtain ⟨after, written, held, entry⟩ := reliable.writes bytes holds
  obtain ⟨sent, same⟩ := Host.transmit_of_write written line
  rw [same]
  exact ⟨sent, held, entry⟩

theorem asks (holds : reliable.holds host.link waiting) (request : Request) :
    let performance := host.controller.asked request
    performance.reply = .done (host.ask request).1 ∧
      performance.controller = (host.ask request).2.controller ∧
      reliable.holds (host.ask request).2.link waiting ∧
      reliable.ledger (host.ask request).2.link =
        match performance.frame with
        | none => reliable.ledger host.link
        | some bytes => reliable.wrote bytes (reliable.ledger host.link) := by
  have kept := host.controller_ask request
  unfold Controller.asked
  by_cases reached : host.controller.phase = request.phase
  · obtain ⟨line, asked⟩ := host.ask_of_phase reached
    rw [if_pos reached]
    cases encoded : request.encode with
    | error fault =>
        rw [encoded] at asked
        rw [asked]
        exact ⟨rfl, rfl, holds, rfl⟩
    | ok bytes =>
        rw [encoded] at asked
        obtain ⟨sent, held, entry⟩ := transmits holds line bytes
        rw [asked] at kept ⊢
        exact ⟨congrArg Reply.done sent.symm, kept.symm, held, entry⟩
  · obtain ⟨line, asked⟩ := host.ask_of_other_phase reached
    rw [if_neg reached, asked]
    exact ⟨rfl, rfl, holds, rfl⟩

theorem hardResets (holds : reliable.holds host.link waiting) :
    host.hardReset.1 = .ok () ∧ host.hardReset.2.controller = {} ∧
      reliable.holds host.hardReset.2.link waiting ∧
      reliable.ledger host.hardReset.2.link = reliable.cleared (reliable.ledger host.link) := by
  obtain ⟨after, answered, held, entry⟩ := reliable.resets holds
  -- What the host and the link write down before does not touch the link.
  have resetting : ∃ channel, (host.note (.debug ("NCI: hard reset from " ++
      host.controller.phase.name))).channel.reset = (.ok (), channel) ∧ channel.link = after := by
    unfold Channel.reset
    dsimp only
    rw [Channel.link_noteAll, show Link.reset (host.note _).channel.link = _ from answered]
    exact ⟨_, rfl, rfl⟩
  obtain ⟨channel, made, rfl⟩ := resetting
  unfold Host.hardReset
  dsimp only
  rw [made]
  exact ⟨rfl, rfl, held, entry⟩

theorem does_instruction (holds : reliable.holds host.link waiting) (instruction : Instruction) :
    reliable.Does host (.instruct instruction) (host.controller.instructed instruction)
      waiting := by
  cases instruction with
  | hardReset =>
      obtain ⟨done, blank, held, entry⟩ := hardResets holds
      exact ⟨congrArg Reply.done done, blank, held, entry⟩
  | command command =>
      obtain ⟨reply, kept, held, entry⟩ := asks holds (.command command)
      exact ⟨reply.symm, kept.symm, held, entry⟩
  | data connection payload =>
      obtain ⟨reply, kept, held, entry⟩ := asks holds (.data connection payload)
      exact ⟨reply.symm, kept.symm, held, entry⟩

theorem does_process {bytes : Bytes} (complete : Complete bytes)
    (holds : reliable.holds host.link (bytes :: waiting)) :
    reliable.Does host .process (host.controller.pumped bytes) waiting := by
  obtain ⟨after, taken, held, entry⟩ := reliable.hands complete holds
  have pumps := Host.pumps_of_handover complete taken
  rw [← pumps.consumed] at held entry
  unfold Controller.pumped
  cases read : Packet.contents bytes with
  | error fault =>
      obtain ⟨failed, kept⟩ := pumps.failed fault read
      exact ⟨congrArg Reply.event failed, kept, held, entry⟩
  | ok packet =>
      obtain ⟨message, payload⟩ := packet
      obtain ⟨came, _, heard⟩ := pumps.heard message payload read
      exact ⟨congrArg Reply.event came, heard, held, entry⟩

theorem offers_all {link : σ} {arrivals : List Bytes}
    (complete : ∀ bytes ∈ arrivals, Complete bytes) (holds : reliable.holds link waiting) :
    reliable.holds (arrivals.foldl (fun link bytes => reliable.offer bytes link) link)
        (waiting ++ arrivals) ∧
      reliable.ledger (arrivals.foldl (fun link bytes => reliable.offer bytes link) link) =
        reliable.ledger link := by
  induction arrivals generalizing link waiting with
  | nil =>
      rw [List.append_nil]
      exact ⟨holds, rfl⟩
  | cons bytes rest ih =>
      obtain ⟨first, later⟩ := List.forall_mem_cons.mp complete
      obtain ⟨held, entry⟩ := reliable.offers first holds
      obtain ⟨all, entries⟩ := ih later held
      rw [List.append_assoc] at all
      exact ⟨all, entries.trans entry⟩

theorem keeps (reliable : Reliable σ Ledger) {appointment : Appointment} {rest : List Appointment}
    (holds : reliable.holds host.link waiting) (whole : ∀ bytes ∈ waiting, Complete bytes)
    (arriving : ∀ bytes ∈ appointment.arrivals, Complete bytes)
    (supplied : Supplied waiting.length (appointment :: rest)) :
    ∃ performance left,
      host.controller.journey waiting (appointment :: rest) =
          performance :: performance.controller.journey left rest ∧
        reliable.Does (host.meanwhile (appointment.errand reliable.offer).meanwhile)
          appointment.task performance left ∧
        reliable.ledger (host.meanwhile (appointment.errand reliable.offer).meanwhile).link =
          reliable.ledger host.link ∧
        (∀ bytes ∈ left, Complete bytes) ∧ Supplied left.length rest := by
  obtain ⟨arrivals, task⟩ := appointment
  obtain ⟨held, entry⟩ := offers_all arriving holds
  have all : ∀ bytes ∈ waiting ++ arrivals, Complete bytes :=
    List.forall_mem_append.mpr ⟨whole, arriving⟩
  have size : (waiting ++ arrivals).length = waiting.length + arrivals.length :=
    List.length_append
  cases task with
  | instruct instruction =>
      have later : Supplied (waiting ++ arrivals).length rest := by
        rw [size]
        exact supplied
      exact ⟨_, _, rfl, does_instruction held instruction, entry, all, later⟩
  | process =>
      obtain ⟨some, later⟩ : 0 < waiting.length + arrivals.length ∧
        Supplied (waiting.length + arrivals.length - 1) rest := supplied
      rw [← size] at some later
      cases standing : waiting ++ arrivals with
      | nil =>
          rw [standing] at some
          exact absurd some (Nat.lt_irrefl 0)
      | cons bytes left =>
          rw [standing] at held all later
          obtain ⟨complete, whole⟩ := List.forall_mem_cons.mp all
          exact ⟨_, left, Controller.journey_process rest standing, does_process complete held,
            entry, whole, later⟩

theorem trail_eq (reliable : Reliable σ Ledger) {schedule : List Appointment}
    (holds : reliable.holds host.link waiting) (whole : ∀ bytes ∈ waiting, Complete bytes)
    (arriving : ∀ appointment ∈ schedule, ∀ bytes ∈ appointment.arrivals, Complete bytes)
    (supplied : Supplied waiting.length schedule) :
    host.trail (schedule.map (Appointment.errand reliable.offer)) =
      (host.controller.journey waiting schedule).map fun performance =>
        (performance.reply, performance.controller) := by
  induction schedule generalizing host waiting with
  | nil => rfl
  | cons appointment rest ih =>
      obtain ⟨first, later⟩ := List.forall_mem_cons.mp arriving
      obtain ⟨performance, left, course, does, _, whole, supplied⟩ :=
        reliable.keeps holds whole first supplied
      have rest := ih does.holds whole later supplied
      rw [does.controller] at rest
      rw [course, List.map_cons, List.map_cons, ← rest, ← does.reply, ← does.controller]
      rfl

end Reliable

/-! ### The link in memory -/

namespace QueueLink

def reliable : Reliable QueueLink (List Bytes × Nat) where
  holds link waiting := link.Unarmed ∧ link.pending = waiting.flatten
  ledger link := (link.sent, link.resets)
  offer := push
  wrote bytes ledger := (ledger.1 ++ [bytes], ledger.2)
  cleared ledger := ([], ledger.2 + 1)
  offers := by
    rintro link waiting bytes _ ⟨unarmed, queued⟩
    refine ⟨⟨unarmed, ?_⟩, rfl⟩
    simp [push, queued]
  writes := by
    rintro link waiting bytes ⟨unarmed, queued⟩
    exact ⟨_, write_of_unarmed unarmed bytes, ⟨unarmed, queued⟩, rfl⟩
  resets := by
    rintro link waiting ⟨unarmed, queued⟩
    exact ⟨_, rfl, ⟨unarmed, queued⟩, rfl⟩
  hands := by
    rintro link waiting bytes complete ⟨unarmed, queued⟩
    exact ⟨_, handover_path complete queued, ⟨unarmed, rfl⟩, rfl⟩

/-- The packets that were recorded from one state of the link to the other.  If the record
was cleared in between, all of it is new. -/
def recorded (before after : QueueLink) : List Bytes :=
  if after.resets = before.resets then after.sent.drop before.sent.length else after.sent

end QueueLink

namespace Host

def posted : Host QueueLink → List (Errand QueueLink) → List Bytes
  | _, [] => []
  | host, errand :: rest =>
      let met := host.meanwhile errand.meanwhile
      let next := met.perform errand.task
      QueueLink.recorded met.link next.link ++ next.posted rest

end Host

theorem QueueLink.recorded_of_does {host : Host QueueLink} {task : Task}
    {performance : Performance} {left : List Bytes}
    (does : reliable.Does host task performance left) :
    recorded host.link (host.perform task).link = performance.frame.toList := by
  have entry : ((host.perform task).link.sent, (host.perform task).link.resets) =
    reliable.entered task performance.frame (host.link.sent, host.link.resets) := does.ledger
  generalize (host.perform task).link = after at entry ⊢
  generalize performance.frame = frame at entry ⊢
  -- The record grows by the frame, behind what was there or from the start.
  have grown : after.resets = host.link.resets + 1 ∧ after.sent = frame.toList ∨
      after.resets = host.link.resets ∧ after.sent = host.link.sent ++ frame.toList := by
    rcases task with ⟨_ | _ | _⟩ | _ <;> cases frame <;>
      (simp [Reliable.entered, reliable] at entry; simp [entry])
  rcases grown with ⟨cleared, fresh⟩ | ⟨same, behind⟩
  · have other : after.resets ≠ host.link.resets := by omega
    rw [recorded, if_neg other, fresh]
  · rw [recorded, if_pos same, behind, List.drop_left]

theorem Host.posted_eq {schedule : List Appointment} {host : Host QueueLink}
    {waiting : List Bytes} (holds : QueueLink.reliable.holds host.link waiting)
    (whole : ∀ bytes ∈ waiting, Complete bytes)
    (arriving : ∀ appointment ∈ schedule, ∀ bytes ∈ appointment.arrivals, Complete bytes)
    (supplied : Supplied waiting.length schedule) :
    host.posted (schedule.map (Appointment.errand QueueLink.push)) =
      (host.controller.journey waiting schedule).flatMap fun performance =>
        performance.frame.toList := by
  induction schedule generalizing host waiting with
  | nil => rfl
  | cons appointment rest ih =>
      obtain ⟨first, later⟩ := List.forall_mem_cons.mp arriving
      obtain ⟨performance, left, course, does, _, whole, supplied⟩ :=
        QueueLink.reliable.keeps holds whole first supplied
      have recorded := QueueLink.recorded_of_does does
      have rest := ih does.holds whole later supplied
      rw [does.controller] at rest
      rw [course, List.flatMap_cons, ← rest, ← recorded]
      rfl

/-! ### The link to a controller on a board -/

/-- The reads in which a packet is offered: its header, and what is behind it if there is
anything. -/
def portions (bytes : Bytes) : List Bytes :=
  bytes.take Header.size ::
    if bytes.drop Header.size = [] then [] else [bytes.drop Header.size]

structure BoardView where
  offered : List Bytes
  written : List (UInt8 × Bytes)

/-- A board on which nothing fails.  A write sends all its bytes; the device at the address
delivers what is offered, portion by portion, and keeps the IRQ line high until it has; the
VEN line and the clock have no part in that. -/
structure FaultFree (β : Type) [Board β] (address : UInt8) where
  healthy : β → Prop
  view : β → BoardView
  offer : Bytes → β → β
  offers : ∀ {board} bytes, healthy board →
    healthy (offer bytes board) ∧
      view (offer bytes board) =
        { view board with offered := (view board).offered ++ portions bytes }
  writes : ∀ {board} target bytes, healthy board →
    ∃ after, Board.busWrite target bytes board = (.ok (), after) ∧ healthy after ∧
      view after = { view board with written := (view board).written ++ [(target, bytes)] }
  reads : ∀ {board portion rest}, healthy board → (view board).offered = portion :: rest →
    ∃ after, Board.busRead address portion.length board = (.ok portion, after) ∧
      healthy after ∧ view after = { view board with offered := rest }
  raised : ∀ {board}, healthy board → (view board).offered ≠ [] →
    ∃ after, Board.irq board = (.ok true, after) ∧ healthy after ∧ view after = view board
  switches : ∀ {board} level, healthy board →
    ∃ after, Board.setVen level board = (.ok (), after) ∧ healthy after ∧
      view after = view board
  delays : ∀ {board} time, healthy board →
    healthy (Board.delay time board) ∧ view (Board.delay time board) = view board

namespace Pn7120

variable {β : Type} [Board β] {address : UInt8}

def offer (free : FaultFree β address) (bytes : Bytes) (link : Pn7120 β) : Pn7120 β :=
  { link with board := free.offer bytes link.board }

structure Holds (free : FaultFree β address) (link : Pn7120 β) (waiting : List Bytes) : Prop where
  address : link.address = address
  healthy : free.healthy link.board
  offered : (free.view link.board).offered = waiting.flatMap portions

theorem setVen_of_healthy (free : FaultFree β address) {board : β} (level : Bool)
    (healthy : free.healthy board) :
    ∃ after, setVen level board = (.ok (), after) ∧ free.healthy after ∧
      free.view after = free.view board := by
  obtain ⟨after, switched, sound, same⟩ := free.switches level healthy
  obtain ⟨settled, kept⟩ := free.delays settleTime sound
  unfold setVen
  rw [switched]
  exact ⟨_, rfl, settled, kept.trans same⟩

variable {free : FaultFree β address} {link : Pn7120 β} {waiting : List Bytes}

theorem write_of_holds (bytes : Bytes) (holds : Holds free link waiting) :
    ∃ after, write bytes link = (.ok bytes.length, after) ∧ Holds free after waiting ∧
      (free.view after.board).written = (free.view link.board).written ++ [(address, bytes)] := by
  obtain ⟨board, sent, sound, seen⟩ := free.writes link.address bytes holds.healthy
  unfold write
  rw [sent]
  refine ⟨_, rfl, ⟨holds.address, sound, ?_⟩, ?_⟩
  · rw [seen]
    exact holds.offered
  · rw [seen, holds.address]

theorem reset_of_holds (holds : Holds free link waiting) :
    ∃ after, reset link = (.ok (), after) ∧ Holds free after waiting ∧
      (free.view after.board).written = (free.view link.board).written := by
  obtain ⟨down, lowered, low, same⟩ := setVen_of_healthy free false holds.healthy
  obtain ⟨up, lifted, high, kept⟩ := setVen_of_healthy free true low
  unfold reset powerUp
  rw [lowered]
  dsimp only
  rw [lifted]
  have seen : free.view up = free.view link.board := kept.trans same
  refine ⟨_, rfl, ⟨holds.address, high, ?_⟩, ?_⟩
  · rw [seen]
    exact holds.offered
  · rw [seen]

theorem wait_of_high {board : β} (looked : Board.irq link.board = (.ok true, board)) :
    wait link = (.ok (), { link with board := board }) := by
  obtain ⟨start, address, limit⟩ := link
  dsimp only at looked
  have high : look start = .inr (.ok (), board) := by rw [look, looked]
  unfold wait
  cases limit with
  | none =>
      dsimp only
      rw [await_eq, high]
  | some limit =>
      dsimp only
      rw [poll, high]

theorem wait_of_holds {bytes : Bytes} (holds : Holds free link (bytes :: waiting)) :
    ∃ board, wait link = (.ok (), { link with board := board }) ∧ free.healthy board ∧
      free.view board = free.view link.board := by
  have some : (free.view link.board).offered ≠ [] := by
    rw [holds.offered]
    exact List.cons_ne_nil _ _
  obtain ⟨board, looked, sound, seen⟩ := free.raised holds.healthy some
  exact ⟨board, wait_of_high looked, sound, seen⟩

theorem read_of_offered {board : β} {portion : Bytes} {rest : List Bytes}
    (own : link.address = address) (healthy : free.healthy board)
    (offered : (free.view board).offered = portion :: rest) (some : portion ≠ []) :
    ∃ after, read portion.length { link with board := board } =
        (.ok ⟨portion.length, portion⟩, { link with board := after }) ∧
      free.healthy after ∧ free.view after = { free.view board with offered := rest } := by
  obtain ⟨after, taken, sound, seen⟩ := free.reads healthy offered
  unfold read
  dsimp only
  rw [if_neg (by simpa using some), own, taken]
  exact ⟨after, rfl, sound, seen⟩

theorem payload_of_offered {board : β} {payload : Bytes} {size : Nat}
    (own : link.address = address) (healthy : free.healthy board)
    (offered : (free.view board).offered =
      (if payload = [] then [] else [payload]) ++ waiting.flatMap portions)
    (fits : payload.length = size) :
    ∃ after, Path { link with board := board }
        (if size = 0 then [] else [.read size (.ok ⟨size, payload⟩)]) after ∧
      Holds free after waiting ∧
      (free.view after.board).written = (free.view board).written := by
  by_cases empty : payload = []
  · have none : size = 0 := by
      rw [← fits, empty]
      rfl
    rw [if_pos none]
    rw [if_pos empty] at offered
    exact ⟨_, .nil _, ⟨own, healthy, offered⟩, rfl⟩
  · have some : ¬size = 0 := by
      rw [← fits]
      simpa using empty
    rw [if_neg empty] at offered
    obtain ⟨filled, taken, sound, emptied⟩ := read_of_offered own healthy offered empty
    rw [if_neg some, ← fits]
    refine ⟨_, .single taken, ⟨own, sound, ?_⟩, ?_⟩
    · rw [emptied]
      rfl
    · rw [emptied]

theorem handover_of_holds {bytes : Bytes} (complete : Complete bytes)
    (holds : Holds free link (bytes :: waiting)) :
    ∃ after, Path link (handover bytes) after ∧ Holds free after waiting ∧
      (free.view after.board).written = (free.view link.board).written := by
  obtain ⟨first, second, last, payload, rfl, size⟩ := complete.parts
  obtain ⟨ready, waited, sound, seen⟩ := wait_of_holds holds
  have offered : (free.view ready).offered = [first, second, last] ::
      ((if payload = [] then [] else [payload]) ++ waiting.flatMap portions) := by
    rw [seen, holds.offered]
    rfl
  obtain ⟨headed, taken, sound, left⟩ :=
    read_of_offered holds.address sound offered (List.cons_ne_nil _ _)
  have behind : (free.view headed).offered =
      (if payload = [] then [] else [payload]) ++ waiting.flatMap portions := by
    rw [left]
  obtain ⟨after, tail, held, entry⟩ := payload_of_offered holds.address sound behind size
  refine ⟨after, .cons waited (.cons taken tail), held, ?_⟩
  rw [entry, left, seen]

def reliable (free : FaultFree β address) : Reliable (Pn7120 β) (List (UInt8 × Bytes)) where
  holds := Holds free
  ledger link := (free.view link.board).written
  offer := offer free
  wrote bytes ledger := ledger ++ [(address, bytes)]
  cleared ledger := ledger
  offers := by
    intro link waiting bytes _ holds
    obtain ⟨sound, seen⟩ := free.offers bytes holds.healthy
    refine ⟨⟨holds.address, sound, ?_⟩, ?_⟩
    · rw [offer, seen, holds.offered, List.flatMap_append, List.flatMap_singleton]
    · rw [offer, seen]
  writes := write_of_holds
  resets := reset_of_holds
  hands := handover_of_holds

theorem written_of_does {host : Host (Pn7120 β)} {task : Task} {performance : Performance}
    (does : (reliable free).Does host task performance waiting) :
    (free.view (host.perform task).link.board).written =
      (free.view host.link.board).written ++
        performance.frame.toList.map fun frame => (address, frame) := by
  have entry : (free.view (host.perform task).link.board).written =
    (reliable free).entered task performance.frame (free.view host.link.board).written :=
      does.ledger
  rw [entry]
  rcases task with ⟨_ | _ | _⟩ | _ <;> cases performance.frame <;>
    simp [Reliable.entered, reliable]

theorem written_eq {schedule : List Appointment} {host : Host (Pn7120 β)}
    (holds : Holds free host.link waiting) (whole : ∀ bytes ∈ waiting, Complete bytes)
    (arriving : ∀ appointment ∈ schedule, ∀ bytes ∈ appointment.arrivals, Complete bytes)
    (supplied : Supplied waiting.length schedule) :
    (free.view (host.run (schedule.map (Appointment.errand (offer free)))).link.board).written =
      (free.view host.link.board).written ++
        ((host.controller.journey waiting schedule).flatMap fun performance =>
          performance.frame.toList).map fun frame => (address, frame) := by
  induction schedule generalizing host waiting with
  | nil => exact (List.append_nil _).symm
  | cons appointment rest ih =>
      obtain ⟨first, later⟩ := List.forall_mem_cons.mp arriving
      obtain ⟨performance, left, course, does, entry, whole, supplied⟩ :=
        (reliable free).keeps holds whole first supplied
      have unchanged : (free.view (host.meanwhile
          (appointment.errand (reliable free).offer).meanwhile).link.board).written =
        (free.view host.link.board).written := entry
      have rest := ih does.holds whole later supplied
      rw [does.controller, written_of_does does, unchanged] at rest
      rw [course, List.flatMap_cons, List.map_append, ← List.append_assoc]
      exact rest

end Pn7120

/-! ### One behaviour -/

/-- A host over a link in memory and a host over a controller's link cannot be told apart.
Given the same packets and the same tasks, with a packet wherever one is processed, they
reply alike and know the same of the controller after every task; and what the link in
memory records is, frame by frame, what goes over the bus, to the controller's address. -/
theorem Host.links_agree {β : Type} [Board β] {address : UInt8} (free : FaultFree β address)
    (board : β) (limit : Option UInt32) (threshold other : Threshold)
    (schedule : List Appointment) (healthy : free.healthy board)
    (idle : (free.view board).offered = [])
    (whole : ∀ appointment ∈ schedule, ∀ bytes ∈ appointment.arrivals, Complete bytes)
    (supplied : Supplied 0 schedule) :
    let memory : Host QueueLink := fresh {} threshold
    let chip : Host (Pn7120 β) := fresh ⟨board, address, limit⟩ other
    let queued := schedule.map (Appointment.errand QueueLink.push)
    let offered := schedule.map (Appointment.errand (Pn7120.offer free))
    chip.trail offered = memory.trail queued ∧
      (free.view (chip.run offered).link.board).written =
        (free.view board).written ++ (memory.posted queued).map fun frame => (address, frame) := by
  intro memory chip queued offered
  have none : ∀ bytes ∈ ([] : List Bytes), Complete bytes := nofun
  have stored : QueueLink.reliable.holds memory.link [] := ⟨⟨rfl, rfl⟩, rfl⟩
  have wired : (Pn7120.reliable free).holds chip.link [] := ⟨rfl, healthy, idle⟩
  constructor
  · have wiredTrail := (Pn7120.reliable free).trail_eq wired none whole supplied
    have storedTrail := QueueLink.reliable.trail_eq stored none whole supplied
    exact wiredTrail.trans storedTrail.symm
  · rw [Pn7120.written_eq wired none whole supplied, posted_eq stored none whole supplied]
    rfl

/-! ### A scripted board -/

def BoardEvent.written? : BoardEvent → Option (UInt8 × Bytes)
  | .busWrite address bytes => some (address, bytes)
  | _ => none

namespace ScriptedBoard

theorem busOutcome_of_nil {board : ScriptedBoard} (outcomes : board.busOutcomes = []) :
    board.busOutcome = (.ok (), board) := by
  unfold busOutcome
  rw [outcomes]

def Calm (board : ScriptedBoard) : Prop :=
  board.busOutcomes = [] ∧ board.irqLevels = [] ∧ board.irqIdle = true ∧
    board.irqFailures = 0 ∧ board.venFailures = 0

def faultFree (address : UInt8) : FaultFree ScriptedBoard address where
  healthy := Calm
  view board := ⟨board.reads, board.events.filterMap BoardEvent.written?⟩
  offer := queuePacket
  offers := by
    intro board bytes calm
    exact ⟨calm, rfl⟩
  writes := by
    rintro board target bytes ⟨outcomes, calm⟩
    refine ⟨board.record (.busWrite target bytes), ?_, ⟨outcomes, calm⟩, ?_⟩
    · exact busOutcome_of_nil outcomes
    · simp [record, BoardEvent.written?]
  reads := by
    rintro board portion rest ⟨outcomes, calm⟩ offered
    refine ⟨{ board.record (.busRead address portion.length) with reads := rest }, ?_,
      ⟨outcomes, calm⟩, ?_⟩
    · have working := busOutcome_of_nil
        (show (board.record (.busRead address portion.length)).busOutcomes = [] from outcomes)
      have queued : (board.record (.busRead address portion.length)).reads = portion :: rest :=
        offered
      change busRead address portion.length board = _
      unfold busRead
      rw [working]
      dsimp only
      rw [queued]
      dsimp only
      rw [List.take_length]
    · simp [record, BoardEvent.written?]
  raised := by
    rintro board ⟨outcomes, levels, idle, failures, ven⟩ _
    refine ⟨board.record (.irq true), ?_, ⟨outcomes, levels, idle, failures, ven⟩, ?_⟩
    · change irq board = _
      unfold irq
      rw [failures, levels, idle]
    · simp [record, BoardEvent.written?]
  switches := by
    rintro board level ⟨outcomes, levels, idle, failures, ven⟩
    have working : ∃ passes, setVen level board =
        (.ok (), { board.record (.ven level) with venPasses := passes }) := by
      unfold setVen
      rw [ven]
      cases board.venPasses with
      | zero => exact ⟨board.venPasses, rfl⟩
      | succ passes => exact ⟨passes, rfl⟩
    obtain ⟨passes, switched⟩ := working
    refine ⟨_, switched, ⟨outcomes, levels, idle, failures, ven⟩, ?_⟩
    simp [record, BoardEvent.written?]
  delays := by
    intro board time calm
    exact ⟨calm, by simp [Board.delay, record, BoardEvent.written?]⟩

end ScriptedBoard

/-- A start after a reset.  The answer to the first command comes in behind a packet that is
no message and has no payload, before either is processed. -/
def startup : List Appointment :=
  [ ⟨[], .instruct .hardReset⟩,
    ⟨[[0x80, 0x00, 0x00]], .instruct (.command (.reset .keepConfig))⟩,
    ⟨[[0x40, 0x00, 0x03, 0x00, 0x10, 0x00]], .process⟩,
    ⟨[], .instruct (.command (.discover []))⟩,
    ⟨[], .process⟩,
    ⟨[], .instruct (.command .init)⟩ ]

theorem Host.links_agree_startup :
    let chip : Host (Pn7120 ScriptedBoard) := fresh ⟨{}, 0x28, some 0⟩ none
    let offered := startup.map (Appointment.errand (Pn7120.offer (ScriptedBoard.faultFree 0x28)))
    (∀ appointment ∈ startup, ∀ bytes ∈ appointment.arrivals, Complete bytes) ∧
      Supplied 0 startup ∧
      (chip.trail offered).map (fun step => (step.1, step.2.phase)) =
        [ (.done (.ok ()), .down), (.done (.ok ()), .down),
          (.event (.error (.malformed (.messageType 0x04))), .down),
          (.done (.error .rejected), .down),
          (.event (.ok (.reset (.ok ⟨0x10, .kept⟩))), .reset),
          (.done (.ok ()), .reset) ] ∧
      ((ScriptedBoard.faultFree 0x28).view (chip.run offered).link.board).written =
        [(0x28, [0x20, 0x00, 0x01, 0x00]), (0x28, [0x20, 0x01, 0x00])] := by
  intro chip offered
  have whole : ∀ appointment ∈ startup, ∀ bytes ∈ appointment.arrivals, Complete bytes := by
    decide
  have supplied : Supplied 0 startup := by
    simp [Supplied, startup]
  obtain ⟨trail, written⟩ := links_agree (ScriptedBoard.faultFree 0x28) {} (some 0) none none
    startup ⟨rfl, rfl, rfl, rfl, rfl⟩ rfl whole supplied
  refine ⟨whole, supplied, ?_, ?_⟩
  · rw [trail]
    rfl
  · rw [written]
    rfl

end NfcHost
