/-
The link to a PN7120 controller on its board.

Each packet is one bus write.  A packet is read in two parts, header and
payload, once the IRQ line has been seen high.  A reset takes the VEN line low
and up again.
-/

import NfcHost.Board
import NfcHost.Link

namespace NfcHost

structure Pn7120 (β : Type) where
  board : β
  address : UInt8 := 0x28
  /-- How often a wait goes on after the line was seen low; `none` for as often as it takes. -/
  waitLimit : Option UInt32 := none

namespace Pn7120

variable {β : Type}

abbrev pollInterval : Nat := 10

abbrev settleTime : Nat := 10

variable [Board β]

/-- Looks at the IRQ line.  If it is low, only the board is left to look at again. -/
def look (board : β) : β ⊕ Except Fault Unit × β :=
  match Board.irq board with
  | (.error fault, board) => .inr (.error (.transport ("IRQ: " ++ fault.name)), board)
  | (.ok true, board) => .inr (.ok (), board)
  | (.ok false, board) => .inl board

/-- Looks at the IRQ line until it is high, at most `remaining` times after the
first. -/
def poll (remaining : Nat) (board : β) : Except Fault Unit × β :=
  match look board with
  | .inr result => result
  | .inl board =>
      match remaining with
      | 0 => (.error .timeout, board)
      | remaining + 1 => poll remaining (Board.delay pollInterval board)

/-- Looks at the IRQ line until it is high.  Over a line that stays low this does
not return. -/
def await (board : β) : Except Fault Unit × β :=
  have : Nonempty β := ⟨board⟩
  Id.run (repeatM (fun board => pure ((look board).map (Board.delay pollInterval) id)) board)

theorem await_eq (board : β) :
    await board =
      match look board with
      | .inr result => result
      | .inl board => await (Board.delay pollInterval board) := by
  have : Nonempty β := ⟨board⟩
  unfold await
  dsimp only
  rw [repeatM_eq_of_monadTail, repeatM.body, pure_bind]
  cases look board with
  | inl board => rfl
  | inr result => rfl

def setVen (level : Bool) (board : β) : Except Fault Unit × β :=
  match Board.setVen level board with
  | (.error fault, board) => (.error (.transport ("VEN: " ++ fault.name)), board)
  | (.ok (), board) => (.ok (), Board.delay settleTime board)

def write (bytes : Bytes) (link : Pn7120 β) : Except Fault Nat × Pn7120 β :=
  match Board.busWrite link.address bytes link.board with
  | (.error fault, board) =>
      (.error (.transport ("i2c write: " ++ fault.name)), { link with board := board })
  | (.ok (), board) => (.ok bytes.length, { link with board := board })

/-- The bus reports no count: a read that works has filled the buffer.  An empty
buffer needs no bus. -/
def read (size : Nat) (link : Pn7120 β) : Except Fault Delivery × Pn7120 β :=
  if size = 0 then
    (.ok ⟨0, []⟩, link)
  else
    match Board.busRead link.address size link.board with
    | (.error fault, board) =>
        (.error (.transport ("i2c read: " ++ fault.name)), { link with board := board })
    | (.ok placed, board) => (.ok ⟨size, placed⟩, { link with board := board })

def wait (link : Pn7120 β) : Except Fault Unit × Pn7120 β :=
  let (outcome, board) :=
    match link.waitLimit with
    | some limit => poll limit.toNat link.board
    | none => await link.board
  (outcome, { link with board := board })

def powerUp (link : Pn7120 β) : Except Fault Unit × Pn7120 β :=
  let (outcome, board) := setVen true link.board
  (outcome, { link with board := board })

def reset (link : Pn7120 β) : Except Fault Unit × Pn7120 β :=
  match setVen false link.board with
  | (.error fault, board) => (.error fault, { link with board := board })
  | (.ok (), board) => powerUp { link with board := board }

instance : Link (Pn7120 β) where
  write := write
  read := read
  wait := wait
  reset := reset
  resetLines _ := [.debug "PN7120 hard reset"]

end Pn7120
end NfcHost
