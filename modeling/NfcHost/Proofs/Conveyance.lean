/-
What a link in memory does with what it is given.

From one side packets are queued and faults are armed, from the other they are read, waited for
and written.  In whatever order that happens, no byte is lost or overtaken, a read takes what
there is, and each armed fault strikes one write: failures first, and the short ones after them.
Copies of a handle reach the same link, so what is done through any of them is done to it.
-/

import Mathlib.Logic.Function.Basic
import NfcHost.Link.Queue

namespace NfcHost
namespace QueueLink

/-! ### Uses -/

inductive Use where
  | push (bytes : Bytes)
  | read (buffer : Bytes)
  | wait
  | write (bytes : Bytes)
  | popSent
  | reset
  | armShort (count : Nat)
  | armFailures (count : Nat)

inductive Response where
  | done
  | filled (count : Except Fault Nat) (buffer : Bytes)
  | waited (outcome : Except Fault Unit)
  | wrote (report : Except Fault Nat)
  | popped (packet : Option Bytes)
  | cleared (outcome : Except Fault Unit)

def serve (link : QueueLink) : Use → Response × QueueLink
  | .push bytes => (.done, link.push bytes)
  | .read buffer =>
      match link.read buffer.length with
      | (.error fault, link) => (.filled (.error fault) buffer, link)
      | (.ok delivery, link) =>
          (.filled (.ok delivery.count) (overwrite buffer delivery.placed), link)
  | .wait =>
      let (outcome, link) := link.wait
      (.waited outcome, link)
  | .write bytes =>
      let (report, link) := link.write bytes
      (.wrote report, link)
  | .popSent =>
      let (packet, link) := link.popSent
      (.popped packet, link)
  | .reset =>
      let (outcome, link) := link.reset
      (.cleared outcome, link)
  | .armShort count => (.done, { link with shortWrites := count })
  | .armFailures count => (.done, { link with writeFailures := count })

structure Service where
  before : QueueLink
  use : Use

namespace Service

def response (service : Service) : Response :=
  (service.before.serve service.use).1

def after (service : Service) : QueueLink :=
  (service.before.serve service.use).2

def taken (service : Service) : Bytes :=
  match service.response with
  | .filled (.ok count) buffer => buffer.take count
  | _ => []

def report? (service : Service) : Option (Except Fault Nat) :=
  match service.response with
  | .wrote report => some report
  | _ => none

end Service

def services : QueueLink → List Use → List Service
  | _, [] => []
  | link, use :: rest => ⟨link, use⟩ :: (link.serve use).2.services rest

def afterAll : QueueLink → List Use → QueueLink
  | link, [] => link
  | link, use :: rest => (link.serve use).2.afterAll rest

namespace Use

def pushed : Use → Bytes
  | push bytes => bytes
  | _ => []

def written? : Use → Option Bytes
  | write bytes => some bytes
  | _ => none

def Arms : Use → Prop
  | armShort _ => True
  | armFailures _ => True
  | _ => False

end Use

/-! ### Reads -/

theorem serve_read (link : QueueLink) (buffer : Bytes) :
    link.serve (.read buffer) =
      (.filled (.ok (min buffer.length link.pending.length))
          (link.pending.take buffer.length ++
            buffer.drop (min buffer.length link.pending.length)),
        { link with pending := link.pending.drop buffer.length }) := by
  have size : (link.pending.take buffer.length).length =
      min buffer.length link.pending.length := List.length_take
  have inside : (link.pending.take buffer.length).length ≤ buffer.length :=
    size ▸ Nat.min_le_left _ _
  have filled : overwrite buffer (link.pending.take buffer.length) =
      link.pending.take buffer.length ++
        buffer.drop (min buffer.length link.pending.length) := by
    rw [overwrite, List.take_of_length_le inside, size]
  change (Response.filled (.ok _) (overwrite _ _), _) = _
  rw [filled, size]

theorem taken_read (link : QueueLink) (buffer : Bytes) :
    Service.taken ⟨link, .read buffer⟩ = link.pending.take buffer.length := by
  unfold Service.taken Service.response
  rw [serve_read]
  dsimp only
  rw [← List.length_take, List.take_left]

/-! ### One use -/

/-- What one use may do. -/
structure Service.Lawful (service : Service) : Prop where
  reads (buffer : Bytes) : service.use = .read buffer →
    service.response = .filled (.ok (min buffer.length service.before.pending.length))
        (service.before.pending.take buffer.length ++
          buffer.drop (min buffer.length service.before.pending.length)) ∧
      service.after =
        { service.before with pending := service.before.pending.drop buffer.length }
  waits : service.use = .wait →
    (service.response = .waited (.error .timeout) ↔ service.before.pending = []) ∧
      (service.response = .waited (.ok ()) ↔ service.before.pending ≠ []) ∧
      service.after = service.before
  fails (bytes : Bytes) : service.use = .write bytes → 0 < service.before.writeFailures →
    service.response = .wrote (.error (.transport "simulated write failure")) ∧
      service.after =
        { service.before with writeFailures := service.before.writeFailures - 1 }
  writes (bytes : Bytes) : service.use = .write bytes → service.before.writeFailures = 0 →
    service.response = .wrote
        (.ok (bytes.length - if 0 < service.before.shortWrites then 1 else 0)) ∧
      service.after =
        { service.before with
          sent := service.before.sent ++ [bytes]
          shortWrites := service.before.shortWrites - 1 }
  pops : service.use = .popSent →
    service.response = .popped service.before.sent.getLast? ∧
      service.after = { service.before with sent := service.before.sent.dropLast }
  resets : service.use = .reset →
    service.response = .cleared (.ok ()) ∧
      service.after =
        { service.before with sent := [], resets := service.before.resets + 1 }
  armsShort (count : Nat) : service.use = .armShort count →
    service.after = { service.before with shortWrites := count }
  armsFailures (count : Nat) : service.use = .armFailures count →
    service.after = { service.before with writeFailures := count }
  armed : ¬service.use.Arms → service.use.written? = none →
    service.after.writeFailures = service.before.writeFailures ∧
      service.after.shortWrites = service.before.shortWrites
  /-- What is pushed goes behind what is pending, what is read comes from its front. -/
  conserves : service.before.pending ++ service.use.pushed =
    service.taken ++ service.after.pending

theorem write_of_failing {link : QueueLink} (failing : 0 < link.writeFailures) (bytes : Bytes) :
    link.write bytes =
      (.error (.transport "simulated write failure"),
        { link with writeFailures := link.writeFailures - 1 }) := by
  unfold write
  cases armed : link.writeFailures with
  | zero => exact absurd failing (armed ▸ Nat.lt_irrefl 0)
  | succ failures => rfl

theorem write_of_working {link : QueueLink} (working : link.writeFailures = 0) (bytes : Bytes) :
    link.write bytes =
      (.ok (bytes.length - if 0 < link.shortWrites then 1 else 0),
        { link with sent := link.sent ++ [bytes], shortWrites := link.shortWrites - 1 }) := by
  unfold write
  rw [working]
  dsimp only
  cases link.shortWrites with
  | zero => rfl
  | succ shorts => rfl

theorem response_write (link : QueueLink) (bytes : Bytes) :
    Service.response ⟨link, .write bytes⟩ = .wrote (link.write bytes).1 :=
  rfl

theorem after_write (link : QueueLink) (bytes : Bytes) :
    Service.after ⟨link, .write bytes⟩ = (link.write bytes).2 :=
  rfl

theorem wait_eq (link : QueueLink) :
    link.wait = (if link.pending = [] then .error .timeout else .ok (), link) := by
  unfold QueueLink.wait
  split <;> rfl

theorem counters_of_other {link : QueueLink} {use : Use} (quiet : ¬use.Arms)
    (other : use.written? = none) :
    (link.serve use).2.writeFailures = link.writeFailures ∧
      (link.serve use).2.shortWrites = link.shortWrites := by
  cases use with
  | write bytes => cases other
  | armShort count => exact absurd trivial quiet
  | armFailures count => exact absurd trivial quiet
  | wait =>
      change link.wait.2.writeFailures = _ ∧ link.wait.2.shortWrites = _
      rw [wait_eq]
      exact ⟨rfl, rfl⟩
  | _ => exact ⟨rfl, rfl⟩

theorem Service.conserved (service : Service) :
    service.before.pending ++ service.use.pushed = service.taken ++ service.after.pending := by
  obtain ⟨link, use⟩ := service
  have idle {after : QueueLink} (same : after.pending = link.pending) :
      link.pending ++ [] = [] ++ after.pending := by
    rw [same, List.append_nil, List.nil_append]
  cases use with
  | push bytes => rfl
  | read buffer =>
      have after : Service.after ⟨link, .read buffer⟩ =
          { link with pending := link.pending.drop buffer.length } :=
        congrArg Prod.snd (link.serve_read buffer)
      rw [taken_read, after]
      exact (List.append_nil _).trans (List.take_append_drop _ _).symm
  | wait =>
      refine idle ?_
      change link.wait.2.pending = _
      rw [wait_eq]
  | write bytes =>
      refine idle ?_
      change (link.write bytes).2.pending = _
      rcases Nat.eq_zero_or_pos link.writeFailures with working | failing
      · rw [write_of_working working]
      · rw [write_of_failing failing]
  | popSent => exact idle rfl
  | reset => exact idle rfl
  | armShort count => exact idle rfl
  | armFailures count => exact idle rfl

theorem Service.lawful (service : Service) : service.Lawful where
  reads buffer use := by
    obtain ⟨link, _⟩ := service
    cases use
    exact ⟨congrArg Prod.fst (link.serve_read buffer), congrArg Prod.snd (link.serve_read buffer)⟩
  waits use := by
    obtain ⟨link, _⟩ := service
    cases use
    have response : Service.response ⟨link, .wait⟩ = .waited link.wait.1 := rfl
    have after : Service.after ⟨link, .wait⟩ = link.wait.2 := rfl
    rw [response, after, wait_eq]
    by_cases empty : link.pending = [] <;> simp [empty]
  fails bytes use failing := by
    obtain ⟨link, _⟩ := service
    cases use
    rw [response_write, after_write, write_of_failing failing]
    exact ⟨rfl, rfl⟩
  writes bytes use working := by
    obtain ⟨link, _⟩ := service
    cases use
    rw [response_write, after_write, write_of_working working]
    exact ⟨rfl, rfl⟩
  pops use := by
    obtain ⟨link, _⟩ := service
    cases use
    exact ⟨rfl, rfl⟩
  resets use := by
    obtain ⟨link, _⟩ := service
    cases use
    exact ⟨rfl, rfl⟩
  armsShort count use := by
    obtain ⟨link, _⟩ := service
    cases use
    rfl
  armsFailures count use := by
    obtain ⟨link, _⟩ := service
    cases use
    rfl
  armed := counters_of_other
  conserves := service.conserved

/-! ### All uses of one link -/

/-- What the k-th write of a packet comes to, if so many failures and short writes are armed
before the first. -/
def report (failures shorts k : Nat) (packet : Bytes) : Except Fault Nat :=
  if k < failures then
    .error (.transport "simulated write failure")
  else
    .ok (packet.length - if k < failures + shorts then 1 else 0)

/-- What is said of all that is done to one link, whatever it is. -/
structure Conveys (link : QueueLink) (uses : List Use) (services : List Service)
    (last : QueueLink) : Prop where
  made : services = link.services uses
  ends : last = link.afterAll uses
  lawful (service : Service) : service ∈ services → service.Lawful
  /-- What was pending and what is pushed is read in that order, up to what is still pending. -/
  lossless : services.flatMap Service.taken ++ last.pending =
    link.pending ++ uses.flatMap Use.pushed
  /-- Faults that are armed strike the next writes, each of them one: the failures come first. -/
  struck : (∀ use ∈ uses, ¬use.Arms) →
    services.filterMap Service.report? =
        (uses.filterMap Use.written?).mapIdx (report link.writeFailures link.shortWrites) ∧
      last.writeFailures = link.writeFailures - (uses.filterMap Use.written?).length ∧
      last.shortWrites = link.shortWrites -
        ((uses.filterMap Use.written?).length - link.writeFailures)

theorem flatMap_taken_services (link : QueueLink) (uses : List Use) :
    (link.services uses).flatMap Service.taken ++ (link.afterAll uses).pending =
      link.pending ++ uses.flatMap Use.pushed := by
  induction uses generalizing link with
  | nil => exact (List.append_nil _).symm
  | cons use rest ih =>
      have first : link.pending ++ use.pushed =
          Service.taken ⟨link, use⟩ ++ (link.serve use).2.pending :=
        Service.conserved ⟨link, use⟩
      calc (link.services (use :: rest)).flatMap Service.taken ++
            (link.afterAll (use :: rest)).pending
          = Service.taken ⟨link, use⟩ ++
              (((link.serve use).2.services rest).flatMap Service.taken ++
                ((link.serve use).2.afterAll rest).pending) := List.append_assoc _ _ _
        _ = Service.taken ⟨link, use⟩ ++ (link.serve use).2.pending ++
              rest.flatMap Use.pushed := by rw [ih, List.append_assoc]
        _ = link.pending ++ (use :: rest).flatMap Use.pushed := by
              rw [← first, List.append_assoc, List.flatMap_cons]

theorem report_succ (failures shorts k : Nat) (packet : Bytes) :
    report failures shorts (k + 1) packet =
      report (failures - 1) (shorts - (1 - failures)) k packet := by
  have failed : k + 1 < failures ↔ k < failures - 1 := by omega
  have short : k + 1 < failures + shorts ↔
      k < failures - 1 + (shorts - (1 - failures)) := by omega
  simp only [report, failed, short]

theorem write_report (link : QueueLink) (bytes : Bytes) :
    (link.write bytes).1 = report link.writeFailures link.shortWrites 0 bytes ∧
      (link.write bytes).2.writeFailures = link.writeFailures - 1 ∧
      (link.write bytes).2.shortWrites =
        link.shortWrites - (1 - link.writeFailures) := by
  rcases Nat.eq_zero_or_pos link.writeFailures with working | failing
  · rw [write_of_working working, working, report]
    simp
  · rw [write_of_failing failing, report, if_pos failing]
    refine ⟨rfl, rfl, ?_⟩
    have none : 1 - link.writeFailures = 0 := by omega
    rw [none]
    rfl

theorem eq_write_of_written {use : Use} {bytes : Bytes} (written : use.written? = some bytes) :
    use = .write bytes := by
  cases use with
  | write packet => rw [Option.some.inj written]
  | _ => cases written

theorem report_of_other {link : QueueLink} {use : Use} (other : use.written? = none) :
    Service.report? ⟨link, use⟩ = none := by
  cases use with
  | write bytes => cases other
  | _ => rfl

theorem struck_services (link : QueueLink) (uses : List Use)
    (quiet : ∀ use ∈ uses, ¬use.Arms) :
    (link.services uses).filterMap Service.report? =
        (uses.filterMap Use.written?).mapIdx (report link.writeFailures link.shortWrites) ∧
      (link.afterAll uses).writeFailures =
        link.writeFailures - (uses.filterMap Use.written?).length ∧
      (link.afterAll uses).shortWrites = link.shortWrites -
        ((uses.filterMap Use.written?).length - link.writeFailures) := by
  -- Each write leaves fewer faults to the rest, so the link has to vary.
  induction uses generalizing link with
  | nil => simp [services, afterAll]
  | cons use rest ih =>
      obtain ⟨head, tail⟩ := List.forall_mem_cons.mp quiet
      obtain ⟨reports, failures, shorts⟩ := ih (link.serve use).2 tail
      change (_ :: _).filterMap _ = _ ∧ ((link.serve use).2.afterAll rest).writeFailures = _ ∧
        ((link.serve use).2.afterAll rest).shortWrites = _
      rw [failures, shorts]
      cases written : use.written? with
      | none =>
          have silent : Service.report? ⟨link, use⟩ = none := report_of_other written
          obtain ⟨same, equal⟩ := counters_of_other head written
          rw [List.filterMap_cons_none silent, List.filterMap_cons_none written, reports, same,
            equal]
          exact ⟨rfl, rfl, rfl⟩
      | some bytes =>
          obtain rfl : use = .write bytes := eq_write_of_written written
          obtain ⟨first, fewer, shorter⟩ := link.write_report bytes
          have answer : Service.report? ⟨link, .write bytes⟩ = some (link.write bytes).1 := rfl
          have left : (link.serve (.write bytes)).2 = (link.write bytes).2 := rfl
          have shifted : (fun k => report link.writeFailures link.shortWrites (k + 1)) =
              report (link.writeFailures - 1) (link.shortWrites - (1 - link.writeFailures)) :=
            funext fun k => funext (report_succ _ _ k)
          rw [List.filterMap_cons_some answer, List.filterMap_cons_some written,
            List.mapIdx_cons, reports, left, fewer, shorter, first, shifted, List.length_cons]
          refine ⟨rfl, ?_, ?_⟩ <;> omega

theorem conveys_services (link : QueueLink) (uses : List Use) :
    Conveys link uses (link.services uses) (link.afterAll uses) where
  made := rfl
  ends := rfl
  lawful service _ := service.lawful
  lossless := flatMap_taken_services link uses
  struck := struck_services link uses

/-! ### Shared links -/

/-- Links in memory, and handles that reach them.  Several handles may reach the same link. -/
structure Shelf where
  cells : Nat → QueueLink := fun _ => {}
  opened : Nat := 0
  handles : List Nat := []

inductive Deal where
  | build
  | copy (handle : Nat)
  | use (handle : Nat) (use : Use)

namespace Shelf

def serviceIn? (cell : Nat) (shelf : Shelf) : Deal → Option Service
  | .use handle use =>
      if shelf.handles[handle]? = some cell then some ⟨shelf.cells cell, use⟩ else none
  | _ => none

def deal (shelf : Shelf) : Deal → Shelf
  | .build =>
      { shelf with opened := shelf.opened + 1, handles := shelf.handles ++ [shelf.opened] }
  | .copy handle =>
      { shelf with handles := shelf.handles ++ (shelf.handles[handle]?).toList }
  | .use handle use =>
      match shelf.handles[handle]? with
      | none => shelf
      | some cell =>
          { shelf with
            cells := Function.update shelf.cells cell ((shelf.cells cell).serve use).2 }

def afterAll : Shelf → List Deal → Shelf
  | shelf, [] => shelf
  | shelf, deal :: rest => (shelf.deal deal).afterAll rest

def servicesIn (cell : Nat) : Shelf → List Deal → List Service
  | _, [] => []
  | shelf, deal :: rest =>
      (shelf.serviceIn? cell deal).toList ++ (shelf.deal deal).servicesIn cell rest

theorem deal_use_of_some {shelf : Shelf} {handle cell : Nat}
    (reached : shelf.handles[handle]? = some cell) (use : Use) :
    shelf.deal (.use handle use) =
      { shelf with
        cells := Function.update shelf.cells cell ((shelf.cells cell).serve use).2 } := by
  rw [Shelf.deal, reached]

theorem deal_use_of_none {shelf : Shelf} {handle : Nat}
    (lost : shelf.handles[handle]? = none) (use : Use) :
    shelf.deal (.use handle use) = shelf := by
  rw [Shelf.deal, lost]

theorem cells_of_none {cell : Nat} {shelf : Shelf} {deal : Deal}
    (elsewhere : shelf.serviceIn? cell deal = none) :
    (shelf.deal deal).cells cell = shelf.cells cell := by
  cases deal with
  | build => rfl
  | copy handle => rfl
  | use handle use =>
      cases reached : shelf.handles[handle]? with
      | none => rw [deal_use_of_none reached]
      | some other =>
          have apart : cell ≠ other := by
            rintro rfl
            rw [serviceIn?, if_pos reached] at elsewhere
            cases elsewhere
          rw [deal_use_of_some reached]
          exact Function.update_of_ne apart _ _

theorem cells_of_some {cell : Nat} {shelf : Shelf} {deal : Deal} {service : Service}
    (here : shelf.serviceIn? cell deal = some service) :
    service.before = shelf.cells cell ∧ (shelf.deal deal).cells cell = service.after := by
  cases deal with
  | build => cases here
  | copy handle => cases here
  | use handle use =>
      by_cases reached : shelf.handles[handle]? = some cell
      · rw [serviceIn?, if_pos reached] at here
        cases here
        rw [deal_use_of_some reached]
        exact ⟨rfl, Function.update_self _ _ _⟩
      · rw [serviceIn?, if_neg reached] at here
        cases here

theorem servicesIn_alone (cell : Nat) (shelf : Shelf) (deals : List Deal) :
    shelf.servicesIn cell deals =
        (shelf.cells cell).services ((shelf.servicesIn cell deals).map Service.use) ∧
      (shelf.afterAll deals).cells cell =
        (shelf.cells cell).afterAll ((shelf.servicesIn cell deals).map Service.use) := by
  induction deals generalizing shelf with
  | nil => exact ⟨rfl, rfl⟩
  | cons deal rest ih =>
      obtain ⟨served, ended⟩ := ih (shelf.deal deal)
      change _ ++ _ = _ ∧ ((shelf.deal deal).afterAll rest).cells cell = _
      simp only [servicesIn]
      cases step : shelf.serviceIn? cell deal with
      | none =>
          rw [cells_of_none step] at served ended
          exact ⟨served, ended⟩
      | some service =>
          obtain ⟨before, after⟩ := cells_of_some step
          obtain ⟨link, use⟩ := service
          subst before
          rw [after] at served ended
          exact ⟨congrArg (List.cons (Service.mk (shelf.cells cell) use)) served, ended⟩

theorem handles_prefix (shelf : Shelf) (deals : List Deal) :
    shelf.handles <+: (shelf.afterAll deals).handles := by
  induction deals generalizing shelf with
  | nil => exact List.prefix_refl _
  | cons deal rest ih =>
      refine List.IsPrefix.trans ?_ (ih (shelf.deal deal))
      cases deal with
      | build => exact List.prefix_append _ _
      | copy handle => exact List.prefix_append _ _
      | use handle use =>
          have same : (shelf.deal (.use handle use)).handles = shelf.handles := by
            cases reached : shelf.handles[handle]? with
            | none => rw [deal_use_of_none reached]
            | some cell => rw [deal_use_of_some reached]
          exact ⟨[], by rw [List.append_nil, same]⟩

/-- What is said of links that are used through handles and copies of them. -/
structure Shares (shelf : Shelf) (deals : List Deal) : Prop where
  kept : shelf.handles <+: (shelf.afterAll deals).handles
  copied (handle cell : Nat) : shelf.handles[handle]? = some cell →
    (shelf.deal (.copy handle)).handles = shelf.handles ++ [cell]
  conveyed (cell : Nat) :
    Conveys (shelf.cells cell) ((shelf.servicesIn cell deals).map Service.use)
      (shelf.servicesIn cell deals) ((shelf.afterAll deals).cells cell)

end Shelf

/-- A link in memory loses nothing and mixes up nothing, and its faults strike as they are armed:
in every sequence of uses, through one handle or through several. -/
theorem uses_conveyed :
    (∀ (link : QueueLink) (uses : List Use),
        Conveys link uses (link.services uses) (link.afterAll uses)) ∧
      ∀ (shelf : Shelf) (deals : List Deal), shelf.Shares deals := by
  refine ⟨conveys_services, fun shelf deals =>
    { kept := shelf.handles_prefix deals
      copied := fun handle cell reached => ?_
      conveyed := fun cell => ?_ }⟩
  · change shelf.handles ++ (shelf.handles[handle]?).toList = _
    rw [reached]
    rfl
  · obtain ⟨made, ended⟩ := Shelf.servicesIn_alone cell shelf deals
    have alone := conveys_services (shelf.cells cell)
      ((shelf.servicesIn cell deals).map Service.use)
    rwa [← made, ← ended] at alone

/-- What is queued through a copy is read through the handle that was copied. -/
example :
    (Shelf.servicesIn 0 {} [.build, .copy 0, .use 1 (.push [1, 2]), .use 0 (.read [9])]).map
      Service.taken = [[], [1]] := by
  decide

end QueueLink
end NfcHost
