/-
The journal of a host.

Everything a host does is told in lines of five severities.  A journal has a
threshold and keeps, in order, the lines that reach it.
-/

import NfcHost.Text.Hex

namespace NfcHost

inductive Severity where
  | error
  | warning
  | info
  | debug
  | trace
deriving DecidableEq, Repr

namespace Severity

def all : List Severity :=
  [error, warning, info, debug, trace]

def rank : Severity → Nat
  | error => 1
  | warning => 2
  | info => 3
  | debug => 4
  | trace => 5

def name : Severity → String
  | error => "ERROR"
  | warning => "WARN"
  | info => "INFO"
  | debug => "DEBUG"
  | trace => "TRACE"

/-- The severity with a name, in whatever case it is written. -/
def ofName? (name : String) : Option Severity :=
  all.find? fun severity => severity.name == name.toUpper

theorem rank_le_iff {first second : Severity} :
    first.rank ≤ second.rank ↔ all.idxOf first ≤ all.idxOf second := by
  cases first <;> cases second <;> decide

end Severity

structure Line where
  severity : Severity
  text : String
deriving DecidableEq, Repr

namespace Line

def error (text : String) : Line := ⟨.error, text⟩
def warning (text : String) : Line := ⟨.warning, text⟩
def info (text : String) : Line := ⟨.info, text⟩
def debug (text : String) : Line := ⟨.debug, text⟩

def dump (severity : Severity) (label : String) (bytes : Bytes) : Line :=
  ⟨severity, label ++ "(" ++ toString bytes.length ++ ") " ++ Hex.spaced bytes⟩

end Line

/-- The lowest severity that is kept; `none` keeps nothing. -/
abbrev Threshold := Option Severity

namespace Threshold

def enables (threshold : Threshold) (severity : Severity) : Bool :=
  match threshold with
  | none => false
  | some lowest => severity.rank ≤ lowest.rank

def keeps (threshold : Threshold) (line : Line) : Bool :=
  threshold.enables line.severity

/-- A line is kept exactly if its severity stands no later among all than the lowest one. -/
theorem keeps_iff {threshold : Threshold} {line : Line} :
    threshold.keeps line ↔
      ∃ lowest ∈ threshold, Severity.all.idxOf line.severity ≤ Severity.all.idxOf lowest := by
  cases threshold with
  | none => simp [keeps, enables]
  | some lowest => simp [keeps, enables, Severity.rank_le_iff]

end Threshold

structure Journal where
  threshold : Threshold
  lines : List Line
deriving DecidableEq, Repr

namespace Journal

def empty (threshold : Threshold) : Journal :=
  ⟨threshold, []⟩

def note (journal : Journal) (line : Line) : Journal :=
  if journal.threshold.keeps line then
    { journal with lines := journal.lines ++ [line] }
  else
    journal

def noteAll (journal : Journal) (lines : List Line) : Journal :=
  lines.foldl note journal

@[simp] theorem noteAll_nil (journal : Journal) : journal.noteAll [] = journal := rfl

@[simp] theorem noteAll_cons (journal : Journal) (line : Line) (lines : List Line) :
    journal.noteAll (line :: lines) = (journal.note line).noteAll lines := rfl

@[simp] theorem threshold_note (journal : Journal) (line : Line) :
    (journal.note line).threshold = journal.threshold := by
  unfold note
  split <;> rfl

theorem lines_note (journal : Journal) (line : Line) :
    (journal.note line).lines =
      journal.lines ++ [line].filter journal.threshold.keeps := by
  unfold note
  split <;> simp_all

end Journal
end NfcHost
