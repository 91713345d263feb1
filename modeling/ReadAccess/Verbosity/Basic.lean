/-
  How much the log says: a level for each subsystem, and a switch that silences
  everything but errors.
-/
import ReadAccess.Subsystem

set_option autoImplicit false

namespace ReadAccess

/-- How serious a log line must be to be shown, from nothing at all to
everything. -/
inductive Severity where
  | off
  | error
  | warn
  | info
  | debug
  | trace
  deriving DecidableEq, Repr

namespace Severity

/-- The place of a severity; a filter at some place shows what stands at it or
before it. -/
def rank : Severity → Nat
  | .off => 0
  | .error => 1
  | .warn => 2
  | .info => 3
  | .debug => 4
  | .trace => 5

def all : List Severity := [.off, .error, .warn, .info, .debug, .trace]

def text : Severity → String
  | .off => "off"
  | .error => "error"
  | .warn => "warn"
  | .info => "info"
  | .debug => "debug"
  | .trace => "trace"

/-- Whether a filter at this severity shows informational lines. -/
def showsInfo (s : Severity) : Bool := Severity.info.rank ≤ s.rank

/-- What a subsystem's level shows: warnings only, then one more kind of line
for each level up to the third. -/
def ofLevel (level : UInt8) : Severity :=
  if level = 0 then .warn else if level = 1 then .info else if level = 2 then .debug else .trace

end Severity

structure Levels where
  acl : UInt8
  identity : UInt8
  probe : UInt8
  decision : UInt8
  deriving DecidableEq, Repr

namespace Levels

def uniform (level : UInt8) : Levels := ⟨level, level, level, level⟩

def get (l : Levels) : Subsystem → UInt8
  | .acl => l.acl
  | .identity => l.identity
  | .probe => l.probe
  | .decision => l.decision

def set (l : Levels) (s : Subsystem) (level : UInt8) : Levels :=
  match s with
  | .acl => { l with acl := level }
  | .identity => { l with identity := level }
  | .probe => { l with probe := level }
  | .decision => { l with decision := level }

/-- Setting a level changes that subsystem and no other. -/
theorem get_set (l : Levels) (s t : Subsystem) (level : UInt8) :
    (l.set s level).get t = if t = s then level else l.get t := by
  cases s <;> cases t <;> rfl

@[simp] theorem get_uniform (level : UInt8) (s : Subsystem) : (uniform level).get s = level := by
  cases s <;> rfl

end Levels

/-- How much the log says. -/
structure Verbosity where
  levels : Levels
  /-- Only errors are shown, whatever the levels. -/
  quiet : Bool
  deriving DecidableEq, Repr

namespace Verbosity

/-- Warnings only. -/
def standard : Verbosity := ⟨.uniform 0, false⟩

/-- Errors only. -/
def silent : Verbosity := ⟨.uniform 0, true⟩

/-- What a number of requests for more output gives: results, then all
subsystems, then all subsystems in full. -/
def ofCount (count : UInt8) : Verbosity :=
  if count = 0 then standard
  else if count = 1 then ⟨(Levels.uniform 0).set .decision 1, false⟩
  else if count = 2 then ⟨.uniform 2, false⟩
  else ⟨.uniform 3, false⟩

/-- The subsystems that show more than warnings, with what they show. -/
def raised (v : Verbosity) : List (Subsystem × Severity) :=
  (Subsystem.all.filter fun s => 0 < v.levels.get s).map fun s =>
    (s, Severity.ofLevel (v.levels.get s))

/-- The filter directives that say the same: a severity for everything, then one
for the target of each raised subsystem. -/
def directives (v : Verbosity) : List (Option String × Severity) :=
  if v.quiet then [(none, .error)]
  else (none, .warn) :: v.raised.map fun r => (some r.1.target, r.2)

def directiveText : Option String × Severity → String
  | (none, severity) => severity.text
  | (some target, severity) => target ++ "=" ++ severity.text

def directivesText (v : Verbosity) : String :=
  String.intercalate "," (v.directives.map directiveText)

end Verbosity

end ReadAccess
