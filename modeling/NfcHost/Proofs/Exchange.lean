/-
What passes between a host and its link.

An exchange is one request to a link with the answer it got.  Every function of
a channel is a path of exchanges over the link, and the paths are all that a
proof needs to know of the link.  A traced link keeps its path, so that a
statement can speak of what was written.
-/

import NfcHost.Link

namespace NfcHost

inductive Exchange where
  | write (bytes : Bytes) (report : Except Fault Nat)
  | read (size : Nat) (answer : Except Fault Delivery)
  | wait (answer : Except Fault Unit)
  | reset (answer : Except Fault Unit)

/-- A packet handed to a link, and what the link reported of it. -/
structure Transmission where
  bytes : Bytes
  report : Except Fault Nat

namespace Transmission

def Whole (transmission : Transmission) : Prop :=
  transmission.report = .ok transmission.bytes.length

def outcome (transmission : Transmission) : Except Fault Unit :=
  match transmission.report with
  | .error fault => .error fault
  | .ok count =>
      if count = transmission.bytes.length then .ok ()
      else .error (.shortWrite transmission.bytes.length count)

def frame? (transmission : Transmission) : Option Bytes :=
  match transmission.outcome with
  | .ok () => some transmission.bytes
  | .error _ => none

theorem outcome_ok_iff (transmission : Transmission) :
    transmission.outcome = .ok () ↔ transmission.Whole := by
  rcases transmission with ⟨bytes, report⟩
  cases report with
  | error fault => simp [outcome, Whole]
  | ok count => by_cases same : count = bytes.length <;> simp [outcome, Whole, same]

theorem frame?_eq_some_iff (transmission : Transmission) (frame : Bytes) :
    transmission.frame? = some frame ↔ transmission.Whole ∧ transmission.bytes = frame := by
  rw [← outcome_ok_iff]
  unfold frame?
  cases transmission.outcome with
  | error fault => simp
  | ok value => simp

theorem report_of_rejected {transmission : Transmission} {fault : Fault}
    (failed : transmission.outcome = .error fault) (refused : fault.setback = .rejected) :
    transmission.report = .error fault := by
  unfold outcome at failed
  split at failed
  · rename_i cause reported
    rw [reported, Except.error.inj failed]
  · split at failed
    · cases failed
    · cases failed
      cases refused

end Transmission

/-- The packets that were taken whole, in order. -/
def wholeFrames (sent : List Transmission) : List Bytes :=
  sent.filterMap Transmission.frame?

namespace Exchange

def transmission? : Exchange → Option Transmission
  | .write bytes report => some ⟨bytes, report⟩
  | _ => none

variable {σ : Type} [Link σ]

def Between : Exchange → σ → σ → Prop
  | .write bytes report, before, after => Link.write bytes before = (report, after)
  | .read size answer, before, after => Link.read size before = (answer, after)
  | .wait answer, before, after => Link.wait before = (answer, after)
  | .reset answer, before, after => Link.reset before = (answer, after)

end Exchange

def transmissions (path : List Exchange) : List Transmission :=
  path.filterMap Exchange.transmission?

@[simp] theorem transmissions_append (first second : List Exchange) :
    transmissions (first ++ second) = transmissions first ++ transmissions second :=
  List.filterMap_append

section Path

variable {σ : Type} [Link σ]

/-- The exchanges lead, in order, from one state of the link to another. -/
inductive Path : σ → List Exchange → σ → Prop
  | nil (link : σ) : Path link [] link
  | cons {before middle after : σ} {exchange : Exchange} {rest : List Exchange}
      (head : exchange.Between before middle) (tail : Path middle rest after) :
      Path before (exchange :: rest) after

theorem Path.single {before after : σ} {exchange : Exchange}
    (head : exchange.Between before after) : Path before [exchange] after :=
  .cons head (.nil after)

theorem Path.append {before middle after : σ} {first second : List Exchange}
    (left : Path before first middle) (right : Path middle second after) :
    Path before (first ++ second) after := by
  induction left with
  | nil => exact right
  | cons head _ ih => exact .cons head (ih right)

def SilentPath (before after : σ) : Prop :=
  ∃ path, Path before path after ∧ transmissions path = []

theorem Path.write_of_mem {before after : σ} {path : List Exchange}
    (taken : Path before path after) {transmission : Transmission}
    (member : transmission ∈ transmissions path) :
    ∃ link : σ, (Link.write transmission.bytes link).1 = transmission.report := by
  induction taken with
  | nil link => cases member
  | @cons before middle after exchange rest head _ ih =>
      cases exchange with
      | write bytes report =>
          rcases List.mem_cons.mp member with rfl | later
          · exact ⟨before, congrArg Prod.fst head⟩
          · exact ih later
      | read size answer => exact ih member
      | wait answer => exact ih member
      | reset answer => exact ih member

/-- No write of the link fails like a command that was refused: neither with the fault `rejected`,
nor with the status `rejected` as a report of the controller's. -/
def Link.NeverRejects (σ : Type) [Link σ] : Prop :=
  ∀ (bytes : Bytes) (link : σ) (fault : Fault),
    (Link.write bytes link).1 = .error fault → fault.setback ≠ .rejected

end Path

/-! ### Channels -/

namespace Channel

variable {σ : Type} [Link σ]

theorem send_path (bytes : Bytes) (channel : Channel σ) :
    ∃ report, Path channel.link [.write bytes report] (channel.send bytes).2.link ∧
      (channel.send bytes).1 = Transmission.outcome ⟨bytes, report⟩ := by
  rcases written : Link.write bytes channel.link with ⟨report, link⟩
  refine ⟨report, .single ?_, ?_⟩
  · change Link.write bytes channel.link = (_, _)
    unfold send write
    simp only [link_note, written]
    cases report with
    | error fault => rfl
    | ok count => by_cases whole : count = bytes.length <;> simp only [whole, if_true, if_false]
  · unfold send write Transmission.outcome
    simp only [link_note, written]
    cases report with
    | error fault => rfl
    | ok count => by_cases whole : count = bytes.length <;> simp only [whole, if_true, if_false]

theorem reset_silent (channel : Channel σ) : SilentPath channel.link channel.reset.2.link :=
  ⟨[.reset (Link.reset channel.link).1], .single rfl, rfl⟩

end Channel

/-! ### Traced links -/

/-- A link with the path that has been taken over it. -/
structure Traced (σ : Type) where
  link : σ
  path : List Exchange := []

namespace Traced

variable {σ : Type} [Link σ]

instance : Link (Traced σ) where
  write bytes traced :=
    let (report, link) := Link.write bytes traced.link
    (report, ⟨link, traced.path ++ [.write bytes report]⟩)
  read size traced :=
    let (answer, link) := Link.read size traced.link
    (answer, ⟨link, traced.path ++ [.read size answer]⟩)
  wait traced :=
    let (answer, link) := Link.wait traced.link
    (answer, ⟨link, traced.path ++ [.wait answer]⟩)
  reset traced :=
    let (answer, link) := Link.reset traced.link
    (answer, ⟨link, traced.path ++ [.reset answer]⟩)
  resetLines traced := Link.resetLines traced.link

theorem path_between {exchange : Exchange} {before after : Traced σ}
    (taken : exchange.Between before after) : after.path = before.path ++ [exchange] := by
  cases exchange with
  | write bytes report =>
      obtain ⟨rfl, rfl⟩ := Prod.mk.inj taken
      rfl
  | read size answer =>
      obtain ⟨rfl, rfl⟩ := Prod.mk.inj taken
      rfl
  | wait answer =>
      obtain ⟨rfl, rfl⟩ := Prod.mk.inj taken
      rfl
  | reset answer =>
      obtain ⟨rfl, rfl⟩ := Prod.mk.inj taken
      rfl

theorem path_of_path {before after : σ} {path : List Exchange} (taken : Path before path after)
    (past : List Exchange) :
    Path (⟨before, past⟩ : Traced σ) path (⟨after, past ++ path⟩ : Traced σ) := by
  induction taken generalizing past with
  | nil link =>
      rw [List.append_nil]
      exact .nil _
  | @cons before middle after exchange rest head _ ih =>
      have first : exchange.Between (⟨before, past⟩ : Traced σ) ⟨middle, past ++ [exchange]⟩ := by
        cases exchange with
        | write bytes report =>
            exact congrArg
              (fun answer => (answer.1, Traced.mk answer.2 (past ++ [.write bytes answer.1]))) head
        | read size answer =>
            exact congrArg
              (fun answer => (answer.1, Traced.mk answer.2 (past ++ [.read size answer.1]))) head
        | wait answer =>
            exact congrArg
              (fun answer => (answer.1, Traced.mk answer.2 (past ++ [.wait answer.1]))) head
        | reset answer =>
            exact congrArg
              (fun answer => (answer.1, Traced.mk answer.2 (past ++ [.reset answer.1]))) head
      have later := ih (past ++ [exchange])
      rw [List.append_assoc, List.singleton_append] at later
      exact .cons first later

/-- A traced link keeps exactly the path that was taken. -/
theorem path_eq_append {before after : Traced σ} {path : List Exchange}
    (taken : Path before path after) : after.path = before.path ++ path := by
  induction taken with
  | nil => rw [List.append_nil]
  | cons head _ ih => rw [ih, path_between head, List.append_assoc, List.singleton_append]

end Traced
end NfcHost
