/-
  The parts of a query that the log tells apart, and the lines of the log.
-/
import ReadAccess.Text.Split
import ReadAccess.Text.TerminalSafe

set_option autoImplicit false

namespace ReadAccess

/-- A part of a query with a log target of its own. -/
inductive Subsystem where
  | acl
  /-- Users and groups. -/
  | identity
  /-- Owner and mode of files. -/
  | probe
  /-- Pass results and verdicts. -/
  | decision
  deriving DecidableEq, Repr

namespace Subsystem

def all : List Subsystem := [.acl, .identity, .probe, .decision]

def name : Subsystem → String
  | .acl => "acl"
  | .identity => "identity"
  | .probe => "probe"
  | .decision => "decision"

/-- The target of a subsystem in the log. -/
def target : Subsystem → String
  | .acl => "permcheck::acl"
  | .identity => "permcheck::identity"
  | .probe => "permcheck::probe"
  | .decision => "permcheck::decision"

def ofName? (name : String) : Option Subsystem := all.find? fun s => s.name == name

@[simp] theorem ofName?_name (s : Subsystem) : ofName? s.name = some s := by
  cases s <;> decide

/-- Only a subsystem's own name finds it. -/
theorem ofName?_eq_some_iff {n : String} {s : Subsystem} : ofName? n = some s ↔ n = s.name := by
  constructor
  · intro h
    have := List.find?_some h
    exact (beq_iff_eq.mp this).symm
  · rintro rfl
    exact ofName?_name s

end Subsystem

/-- One line of the log.  All lines are informational.  A message with line feeds
takes up several rows. -/
structure LogLine where
  subsystem : Subsystem
  message : String
  deriving DecidableEq, Repr

namespace LogLine

/-- A log line as it is written, without its line end.  The message cannot steer
the terminal that it is shown on. -/
def text (l : LogLine) : String :=
  " INFO " ++ l.subsystem.target ++ ": " ++ Text.terminalSafe l.message

/-- The rows that a log line takes up. -/
def rows (l : LogLine) : List String :=
  (Text.lines (l.text ++ "\n").toList).map String.ofList

end LogLine

end ReadAccess
