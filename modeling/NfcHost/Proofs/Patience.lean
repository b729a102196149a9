/-
How long the link to a PN7120 waits.

A wait looks at the IRQ line until a look finds the line high or fails, with one pause between
two looks.  Without a limit it returns only if there is such a look.  A limit counts the looks
after the first: a wait with a limit of n makes up to n + 1 of them.  So it keeps to n looks
exactly if one of the first n does not find the line low.
-/

import NfcHost.Board.Scripted
import NfcHost.Link.Pn7120

namespace NfcHost

/-! ### Watched boards -/

structure Watched (β : Type) where
  board : β
  events : List BoardEvent := []

namespace BoardEvent

def look : Except PinFault Bool → BoardEvent
  | .ok level => .irq level
  | .error _ => .irqFailed

def change (level : Bool) : Except PinFault Unit → BoardEvent
  | .ok () => .ven level
  | .error _ => .venFailed level

def isLook : BoardEvent → Bool
  | .irq _ => true
  | .irqFailed => true
  | _ => false

@[simp] theorem isLook_look (answer : Except PinFault Bool) : (look answer).isLook = true := by
  cases answer <;> rfl

theorem filter_intersperse {looks : List BoardEvent} (all : ∀ event ∈ looks, event.isLook = true)
    (milliseconds : Nat) :
    (looks.intersperse (.delay milliseconds)).filter isLook = looks := by
  induction looks with
  | nil => rfl
  | cons first rest ih =>
      obtain ⟨head, tail⟩ := List.forall_mem_cons.mp all
      cases rest with
      | nil => simp [head]
      | cons second rest =>
          have pause : ¬(delay milliseconds).isLook = true := Bool.false_ne_true
          rw [List.intersperse_cons_cons, List.filter_cons_of_pos head,
            List.filter_cons_of_neg pause, ih tail]

end BoardEvent

namespace Watched

variable {β : Type} [Board β]

instance : Board (Watched β) where
  busWrite address bytes watched :=
    let (outcome, board) := Board.busWrite address bytes watched.board
    (outcome, ⟨board, watched.events ++ [.busWrite address bytes]⟩)
  busRead address size watched :=
    let (outcome, board) := Board.busRead address size watched.board
    (outcome, ⟨board, watched.events ++ [.busRead address size]⟩)
  irq watched :=
    let (answer, board) := Board.irq watched.board
    (answer, ⟨board, watched.events ++ [.look answer]⟩)
  setVen level watched :=
    let (outcome, board) := Board.setVen level watched.board
    (outcome, ⟨board, watched.events ++ [.change level outcome]⟩)
  delay milliseconds watched :=
    ⟨Board.delay milliseconds watched.board, watched.events ++ [.delay milliseconds]⟩

end Watched

namespace Pn7120

variable {β : Type} [Board β]

/-! ### Looks -/

/-- What the n-th look at the IRQ line finds, with a pause before each but the first. -/
def finding (board : β) : Nat → Except PinFault Bool
  | 0 => (Board.irq board).1
  | n + 1 => finding (Board.delay pollInterval (Board.irq board).2) n

/-- The n-th look is the first that does not find the line low, and finds this instead. -/
structure Settles (board : β) (n : Nat) (answer : Except PinFault Bool) : Prop where
  found : finding board n = answer
  other : answer ≠ .ok false
  low : ∀ earlier < n, finding board earlier = .ok false

theorem Settles.le {board : β} {n other : Nat} {answer : Except PinFault Bool}
    (settles : Settles board n answer) (high : finding board other ≠ .ok false) : n ≤ other :=
  Nat.le_of_not_lt fun early => high (settles.low other early)

theorem Settles.unique {board : β} {n m : Nat} {answer reply : Except PinFault Bool}
    (first : Settles board n answer) (second : Settles board m reply) :
    n = m ∧ answer = reply := by
  have forth : n ≤ m := first.le (second.found ▸ second.other)
  have back : m ≤ n := second.le (first.found ▸ first.other)
  obtain rfl := Nat.le_antisymm forth back
  exact ⟨rfl, first.found.symm.trans second.found⟩

theorem Settles.next {board : β} {n : Nat} {answer : Except PinFault Bool}
    (low : finding board 0 = .ok false)
    (settles : Settles (Board.delay pollInterval (Board.irq board).2) n answer) :
    Settles board (n + 1) answer where
  found := settles.found
  other := settles.other
  low earlier before := by
    cases earlier with
    | zero => exact low
    | succ earlier => exact settles.low earlier (Nat.lt_of_succ_lt_succ before)

theorem Settles.later {board : β} {n : Nat} {answer : Except PinFault Bool}
    (settles : Settles board (n + 1) answer) :
    Settles (Board.delay pollInterval (Board.irq board).2) n answer where
  found := settles.found
  other := settles.other
  low earlier before := settles.low (earlier + 1) (Nat.succ_lt_succ before)

def verdict : Except PinFault Bool → Except Fault Unit
  | .ok true => .ok ()
  | .ok false => .error .timeout
  | .error fault => .error (.transport ("IRQ: " ++ fault.name))

theorem look_of_other {board : β} (other : finding board 0 ≠ .ok false) :
    look board = .inr (verdict (finding board 0), (Board.irq board).2) := by
  rcases looked : Board.irq board with ⟨answer, after⟩
  have found : finding board 0 = answer := congrArg Prod.fst looked
  rw [found] at other ⊢
  unfold look
  rw [looked]
  rcases answer with fault | level | level
  · rfl
  · exact absurd rfl other
  · rfl

theorem look_of_low {board : β} (low : finding board 0 = .ok false) :
    look board = .inl (Board.irq board).2 := by
  rcases looked : Board.irq board with ⟨answer, after⟩
  obtain rfl : answer = .ok false := (congrArg Prod.fst looked).symm.trans low
  rw [look, looked]

def looks (lows : Nat) (last : Except PinFault Bool) : List BoardEvent :=
  List.replicate lows (.irq false) ++ [.look last]

def paced (lows : Nat) (last : Except PinFault Bool) : List BoardEvent :=
  (looks lows last).intersperse (.delay pollInterval)

theorem length_looks (lows : Nat) (last : Except PinFault Bool) :
    (looks lows last).length = lows + 1 := by
  simp [looks]

theorem paced_succ (lows : Nat) (last : Except PinFault Bool) :
    paced (lows + 1) last = .irq false :: .delay pollInterval :: paced lows last := by
  cases lows with
  | zero => rfl
  | succ lows =>
      simp only [paced, looks, List.replicate_succ, List.cons_append, List.intersperse_cons_cons]

theorem filter_paced (lows : Nat) (last : Except PinFault Bool) :
    (paced lows last).filter BoardEvent.isLook = looks lows last := by
  have all : ∀ event ∈ looks lows last, event.isLook = true := by
    refine List.forall_mem_append.mpr ⟨fun event member => ?_, ?_⟩
    · rw [List.eq_of_mem_replicate member]
      rfl
    · exact List.forall_mem_singleton.mpr (BoardEvent.isLook_look last)
  exact BoardEvent.filter_intersperse all pollInterval

/-! ### Waits -/

/-- How a wait ends that may look so often after its first look. -/
inductive Polled (board : β) (remaining : Nat) : Except Fault Unit → List BoardEvent → Prop
  | settled {n : Nat} {answer : Except PinFault Bool} (settles : Settles board n answer)
      (inside : n ≤ remaining) : Polled board remaining (verdict answer) (paced n answer)
  | exhausted (low : ∀ n ≤ remaining, finding board n = .ok false) :
      Polled board remaining (.error .timeout) (paced remaining (.ok false))

theorem Polled.next {board : β} {remaining : Nat} {outcome : Except Fault Unit}
    {events : List BoardEvent} (low : finding board 0 = .ok false)
    (polled : Polled (Board.delay pollInterval (Board.irq board).2) remaining outcome events) :
    Polled board (remaining + 1) outcome (.irq false :: .delay pollInterval :: events) := by
  cases polled with
  | settled settles inside =>
      rw [← paced_succ]
      exact .settled (settles.next low) (Nat.succ_le_succ inside)
  | exhausted lows =>
      rw [← paced_succ]
      refine .exhausted fun n inside => ?_
      cases n with
      | zero => exact low
      | succ n => exact lows n (Nat.le_of_succ_le_succ inside)

theorem poll_of_other {board : β} (other : finding board 0 ≠ .ok false) (remaining : Nat) :
    poll remaining board = (verdict (finding board 0), (Board.irq board).2) := by
  rw [poll, look_of_other other]

theorem poll_zero_of_low {board : β} (low : finding board 0 = .ok false) :
    poll 0 board = (.error .timeout, (Board.irq board).2) := by
  rw [poll, look_of_low low]

theorem poll_succ_of_low {board : β} (low : finding board 0 = .ok false) (remaining : Nat) :
    poll (remaining + 1) board =
      poll remaining (Board.delay pollInterval (Board.irq board).2) := by
  rw [poll, look_of_low low]

theorem poll_polled (remaining : Nat) (board : β) (past : List BoardEvent) :
    ∃ events, (poll remaining (⟨board, past⟩ : Watched β)).2.events = past ++ events ∧
      Polled board remaining (poll remaining (⟨board, past⟩ : Watched β)).1 events := by
  by_cases low : finding board 0 = .ok false
  · have seen : finding (⟨board, past⟩ : Watched β) 0 = .ok false := low
    cases remaining with
    | zero =>
        rw [poll_zero_of_low seen]
        refine ⟨paced 0 (finding board 0), rfl, ?_⟩
        rw [low]
        refine .exhausted fun n inside => ?_
        rw [Nat.le_zero.mp inside, low]
    | succ remaining =>
        have written : BoardEvent.look (finding board 0) = .irq false := by
          rw [low]
          rfl
        rw [poll_succ_of_low seen]
        obtain ⟨events, added, polled⟩ :=
          poll_polled remaining (Board.delay pollInterval (Board.irq board).2)
            (past ++ [.look (finding board 0)] ++ [.delay pollInterval])
        refine ⟨_, added.trans ?_, polled.next low⟩
        rw [written, List.append_assoc, List.append_assoc]
        rfl
  · have seen : finding (⟨board, past⟩ : Watched β) 0 ≠ .ok false := low
    rw [poll_of_other seen]
    exact ⟨paced 0 (finding board 0), rfl, .settled ⟨rfl, low, nofun⟩ (Nat.zero_le _)⟩

theorem poll_watched (remaining : Nat) (board : β) (past : List BoardEvent) :
    (poll remaining (⟨board, past⟩ : Watched β)).1 = (poll remaining board).1 := by
  by_cases low : finding board 0 = .ok false
  · have seen : finding (⟨board, past⟩ : Watched β) 0 = .ok false := low
    cases remaining with
    | zero => rw [poll_zero_of_low seen, poll_zero_of_low low]
    | succ remaining =>
        rw [poll_succ_of_low seen, poll_succ_of_low low]
        exact poll_watched remaining _ _
  · have seen : finding (⟨board, past⟩ : Watched β) 0 ≠ .ok false := low
    rw [poll_of_other seen, poll_of_other low]
    rfl

/-! ### Waits without a limit -/

/-- What a wait comes to that may look as often as it takes.  There is nothing that it comes to
over a line that stays low. -/
inductive Returns : β → Except Fault Unit × β → Prop
  | settled {board : β} {result : Except Fault Unit × β} (looked : look board = .inr result) :
      Returns board result
  | again {board after : β} {result : Except Fault Unit × β} (looked : look board = .inl after)
      (later : Returns (Board.delay pollInterval after) result) : Returns board result

theorem await_of_returns {board : β} {result : Except Fault Unit × β}
    (returns : Returns board result) : await board = result := by
  induction returns with
  | settled looked => rw [await_eq, looked]
  | again looked later ih =>
      rw [await_eq, looked]
      exact ih

theorem Returns.settles {board : β} {result : Except Fault Unit × β}
    (returns : Returns board result) : ∃ n answer, Settles board n answer := by
  induction returns with
  | @settled board result looked =>
      refine ⟨0, finding board 0, rfl, fun low => ?_, nofun⟩
      cases (look_of_low low).symm.trans looked
  | @again board after result looked later ih =>
      by_cases low : finding board 0 = .ok false
      · cases (look_of_low low).symm.trans looked
        obtain ⟨n, answer, settles⟩ := ih
        exact ⟨n + 1, answer, settles.next low⟩
      · cases (look_of_other low).symm.trans looked

theorem Settles.returns {board : β} {n remaining : Nat} {answer : Except PinFault Bool}
    (settles : Settles board n answer) (inside : n ≤ remaining) :
    Returns board (poll remaining board) := by
  induction n generalizing board remaining with
  | zero =>
      have other : finding board 0 ≠ .ok false := settles.found ▸ settles.other
      rw [poll_of_other other]
      exact .settled (look_of_other other)
  | succ n ih =>
      have low : finding board 0 = .ok false := settles.low 0 (Nat.succ_pos n)
      cases remaining with
      | zero => exact absurd inside (Nat.not_succ_le_zero n)
      | succ remaining =>
          rw [poll_succ_of_low low]
          exact .again (look_of_low low) (ih settles.later (Nat.le_of_succ_le_succ inside))

/-- A wait without a limit returns exactly if some look does not find the line low, and then it
does what every wait does whose limit grants that look. -/
theorem await_returns (board : β) :
    ((∃ result, Returns board result) ↔ ∃ n answer, Settles board n answer) ∧
      ∀ n answer, Settles board n answer →
        Returns board (await board) ∧ ∀ remaining ≥ n, await board = poll remaining board := by
  refine ⟨⟨?_, ?_⟩, ?_⟩
  · rintro ⟨result, returns⟩
    exact returns.settles
  · rintro ⟨n, answer, settles⟩
    exact ⟨_, settles.returns (Nat.le_refl n)⟩
  · intro n answer settles
    have same : ∀ remaining ≥ n, await board = poll remaining board :=
      fun remaining inside => await_of_returns (settles.returns inside)
    refine ⟨?_, same⟩
    rw [same n (Nat.le_refl n)]
    exact settles.returns (Nat.le_refl n)

/-! ### Limits -/

/-- What is said of a wait that makes up to so many looks: when it ends, how, and what it asks
of the board meanwhile. -/
structure Keeps (checks : Nat) (board : β) (outcome : Except Fault Unit)
    (events : List BoardEvent) : Prop where
  bounded : (events.filter BoardEvent.isLook).length ≤ checks
  spaced : events = (events.filter BoardEvent.isLook).intersperse (.delay 10)
  ready : outcome = .ok () ↔ ∃ n < checks, Settles board n (.ok true)
  failed (fault : PinFault) : outcome = .error (.transport ("IRQ: " ++ fault.name)) ↔
    ∃ n < checks, Settles board n (.error fault)
  timedOut : outcome = .error .timeout ↔ ∀ n < checks, finding board n = .ok false

namespace Keeps

variable {checks : Nat} {board : β}

theorem spaced_paced (lows : Nat) (last : Except PinFault Bool) :
    paced lows last =
      ((paced lows last).filter BoardEvent.isLook).intersperse (.delay 10) := by
  rw [filter_paced]
  rfl

theorem of_settles {n : Nat} {answer : Except PinFault Bool} (settles : Settles board n answer)
    (inside : n < checks) : Keeps checks board (verdict answer) (paced n answer) where
  bounded := by
    rw [filter_paced, length_looks]
    exact inside
  spaced := spaced_paced n answer
  ready := by
    constructor
    · intro came
      refine ⟨n, inside, ?_⟩
      rcases answer with fault | level | level
      · cases came
      · cases came
      · exact settles
    · rintro ⟨m, _, other⟩
      obtain ⟨_, rfl⟩ := settles.unique other
      rfl
  failed fault := by
    constructor
    · intro came
      refine ⟨n, inside, ?_⟩
      rcases answer with ⟨⟩ | level | level
      · exact settles
      · cases came
      · cases came
    · rintro ⟨m, _, other⟩
      obtain ⟨_, rfl⟩ := settles.unique other
      rfl
  timedOut := by
    constructor
    · intro came
      rcases answer with fault | level | level
      · cases came
      · exact absurd rfl settles.other
      · cases came
    · intro low
      exact absurd ((settles.found).symm.trans (low n inside)) settles.other

theorem of_exhausted {last : Nat} (low : ∀ n ≤ last, finding board n = .ok false) :
    Keeps (last + 1) board (.error .timeout) (paced last (.ok false)) where
  bounded := Nat.le_of_eq (by rw [filter_paced, length_looks])
  spaced := spaced_paced last _
  ready := by
    constructor
    · exact nofun
    · rintro ⟨n, inside, settles⟩
      exact absurd (settles.found.symm.trans (low n (Nat.le_of_lt_succ inside))) settles.other
  failed fault := by
    constructor
    · intro came
      cases came
    · rintro ⟨n, inside, settles⟩
      exact absurd (settles.found.symm.trans (low n (Nat.le_of_lt_succ inside))) settles.other
  timedOut := iff_of_true rfl fun n inside => low n (Nat.le_of_lt_succ inside)

end Keeps

/-- The looks after the first are those that are counted. -/
theorem Polled.keeps_succ {board : β} {limit : Nat} {outcome : Except Fault Unit}
    {events : List BoardEvent} (polled : Polled board limit outcome events) :
    Keeps (limit + 1) board outcome events := by
  cases polled with
  | settled settles inside => exact .of_settles settles (Nat.lt_succ_of_le inside)
  | exhausted low => exact .of_exhausted low

theorem Polled.keeps_iff {board : β} {limit : Nat} {outcome : Except Fault Unit}
    {events : List BoardEvent} (polled : Polled board limit outcome events) :
    Keeps limit board outcome events ↔ ∃ n < limit, finding board n ≠ .ok false := by
  cases polled with
  | settled settles inside =>
      constructor
      · intro keeps
        have few := keeps.bounded
        rw [filter_paced, length_looks] at few
        exact ⟨_, few, settles.found ▸ settles.other⟩
      · rintro ⟨m, early, high⟩
        exact .of_settles settles (Nat.lt_of_le_of_lt (settles.le high) early)
  | exhausted low =>
      constructor
      · intro keeps
        have few := keeps.bounded
        rw [filter_paced, length_looks] at few
        exact absurd few (Nat.not_succ_le_self _)
      · rintro ⟨m, early, high⟩
        exact absurd (low m (Nat.le_of_lt early)) high

def watchedWait (board : β) (address : UInt8) (limit : UInt32) :
    Except Fault Unit × Pn7120 (Watched β) :=
  wait ⟨⟨board, []⟩, address, some limit⟩

/-- A wait with a limit makes up to one look more than its limit.  It keeps to the limit itself
exactly if one of that many looks does not find the line low. -/
theorem wait_keeps (board : β) (address : UInt8) (limit : UInt32) :
    (watchedWait board address limit).1 = (wait ⟨board, address, some limit⟩).1 ∧
      Keeps (limit.toNat + 1) board (watchedWait board address limit).1
        (watchedWait board address limit).2.board.events ∧
      (Keeps limit.toNat board (watchedWait board address limit).1
          (watchedWait board address limit).2.board.events ↔
        ∃ n < limit.toNat, finding board n ≠ .ok false) := by
  refine ⟨poll_watched limit.toNat board [], ?_⟩
  obtain ⟨events, shown, polled⟩ := poll_polled limit.toNat board []
  have seen : (watchedWait board address limit).2.board.events = events := shown
  rw [seen]
  exact ⟨polled.keeps_succ, polled.keeps_iff⟩

/-- The line is low at the one look that the limit grants, and high at the next. -/
example :
    let waited := wait ⟨({ irqLevels := [false, true] } : ScriptedBoard), 0x28, some 1⟩
    waited.1.toOption = some () ∧
      waited.2.board.events = [.irq false, .delay 10, .irq true] := by
  decide

end Pn7120
end NfcHost
