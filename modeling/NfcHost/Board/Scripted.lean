/-
A board that follows a script.

What the bus delivers, what the IRQ line shows and which requests fail is laid
down beforehand, and everything asked of the board is written down.
-/

import NfcHost.Board
import NfcHost.Text.Hex

namespace NfcHost

inductive BoardEvent where
  | busWrite (address : UInt8) (bytes : Bytes)
  | busRead (address : UInt8) (size : Nat)
  | irq (level : Bool)
  | irqFailed
  | ven (level : Bool)
  | venFailed (level : Bool)
  | delay (milliseconds : Nat)
deriving DecidableEq, Repr

namespace BoardEvent

def levelText (level : Bool) : String :=
  if level then "1" else "0"

def text : BoardEvent → String
  | busWrite address bytes => "write " ++ Hex.byte address ++ " " ++ Hex.plain bytes
  | busRead address size => "read " ++ Hex.byte address ++ " " ++ toString size
  | irq level => "irq " ++ levelText level
  | irqFailed => "irq fail"
  | ven level => "ven " ++ levelText level
  | venFailed level => "ven " ++ levelText level ++ " fail"
  | delay milliseconds => "delay_ms " ++ toString milliseconds

end BoardEvent

structure ScriptedBoard where
  reads : List Bytes := []
  busOutcomes : List (Except BusFault Unit) := []
  irqLevels : List Bool := []
  irqIdle : Bool := true
  irqFailures : Nat := 0
  /-- How many of the next VEN changes work before any fails. -/
  venPasses : Nat := 0
  venFailures : Nat := 0
  events : List BoardEvent := []

namespace ScriptedBoard

def record (event : BoardEvent) (board : ScriptedBoard) : ScriptedBoard :=
  { board with events := board.events ++ [event] }

def busOutcome (board : ScriptedBoard) : Except BusFault Unit × ScriptedBoard :=
  match board.busOutcomes with
  | outcome :: outcomes => (outcome, { board with busOutcomes := outcomes })
  | [] => (.ok (), board)

def busWrite (address : UInt8) (bytes : Bytes) (board : ScriptedBoard) :
    Except BusFault Unit × ScriptedBoard :=
  (board.record (.busWrite address bytes)).busOutcome

/-- A read that fails leaves the queue as it is. -/
def busRead (address : UInt8) (size : Nat) (board : ScriptedBoard) :
    Except BusFault Bytes × ScriptedBoard :=
  match (board.record (.busRead address size)).busOutcome with
  | (.error fault, board) => (.error fault, board)
  | (.ok (), board) =>
      match board.reads with
      | entry :: reads => (.ok (entry.take size), { board with reads := reads })
      | [] => (.ok [], board)

def irq (board : ScriptedBoard) : Except PinFault Bool × ScriptedBoard :=
  match board.irqFailures with
  | failures + 1 => (.error .other, { board.record .irqFailed with irqFailures := failures })
  | 0 =>
      match board.irqLevels with
      | level :: levels => (.ok level, { board.record (.irq level) with irqLevels := levels })
      | [] => (.ok board.irqIdle, board.record (.irq board.irqIdle))

def setVen (level : Bool) (board : ScriptedBoard) : Except PinFault Unit × ScriptedBoard :=
  match board.venPasses, board.venFailures with
  | passes + 1, _ => (.ok (), { board.record (.ven level) with venPasses := passes })
  | 0, failures + 1 =>
      (.error .other, { board.record (.venFailed level) with venFailures := failures })
  | 0, 0 => (.ok (), board.record (.ven level))

instance : Board ScriptedBoard where
  busWrite := busWrite
  busRead := busRead
  irq := irq
  setVen := setVen
  delay milliseconds board := board.record (.delay milliseconds)

/-- Queues one packet as the two reads it takes: header, then the rest if there
is any. -/
def queuePacket (bytes : Bytes) (board : ScriptedBoard) : ScriptedBoard :=
  let rest := bytes.drop 3
  { board with
    reads := board.reads ++ (bytes.take 3 :: if rest = [] then [] else [rest]) }

end ScriptedBoard
end NfcHost
