/-
  Log filters: which lines of the log are shown.

  A filter is a set of directives.  Of the directives that match a line, the
  closest one decides: the one with the longest target of its own, and of two
  such the one that asks for a field.  A line stands outside of all spans, so
  what is said about spans never shows one.
-/
import ReadAccess.Filter.Directive
import ReadAccess.Text.RawText

set_option autoImplicit false

namespace ReadAccess

open Text (RawText)

namespace Directive

/-- The field that every line of the log has, and the only one. -/
def messageField : String := "message"

/-- Whether a directive about lines matches those of a target. -/
def matchesLines (d : Directive) (target : String) : Bool :=
  (match d.target with
    | none => true
    | some start => start.toList.isPrefixOf target.toList) &&
  match d.field with
  | none => true
  | some test => test.name == messageField

/-- How closely a directive describes its targets. -/
def closeness (d : Directive) : Nat :=
  match d.target with
  | none => 0
  | some start => start.utf8ByteSize + 1

/-- Whether a directive is closer to what it matches than another one. -/
def isCloserThan (d e : Directive) : Bool :=
  e.closeness < d.closeness ||
    (e.closeness == d.closeness && e.field.isNone && d.field.isSome)

end Directive

/-- A set of directives, one for each subject. -/
structure Filter where
  lineRules : List Directive
  /-- The directives that are asked at every span. -/
  spanRules : List Directive
  deriving DecidableEq, Repr

namespace Filter

/-- The directives with one more; one about the same is replaced. -/
def insert (d : Directive) : List Directive → List Directive
  | [] => [d]
  | e :: rest => if e.same d.toSubject then d :: rest else e :: insert d rest

/-- Directives without those that a later one about the same replaces. -/
def collect (ds : List Directive) : List Directive := ds.foldl (fun acc d => insert d acc) []

/-- The filter of several directives.  A directive about a field that asks for no
value is both about lines and about spans. -/
def ofDirectives (ds : List Directive) : Filter :=
  ⟨collect (ds.filter fun d => d.isOfLines), collect (ds.filter fun d => d.isOfSpans)⟩

/-- The filter that a text writes: directives between commas, empty ones left
out.  One that is no directive spoils the text. -/
def ofText (text : String) : Except Directive.Fault Filter :=
  (((Text.splitOn ',' text.toList).filter fun piece => !piece.isEmpty).mapM
    Directive.ofText).map ofDirectives

def ofVerbosity (v : Verbosity) : Filter :=
  ofDirectives (v.directives.map fun d => .plain d.1 d.2)

/-- The filter in force: the one that the environment writes, if it writes one,
and otherwise that of the verbosity.  There is none if a directive of the
environment would have to be cut within a character. -/
def inForce (v : Verbosity) (environment : Option RawText) :
    Except Text.SplitCharacter Filter :=
  match (environment.bind RawText.toString?).map ofText with
  | some (.ok f) => .ok f
  | some (.error (.splits s)) => .error s
  | _ => .ok (ofVerbosity v)

@[simp] theorem inForce_none (v : Verbosity) : inForce v none = .ok (ofVerbosity v) := rfl

def texts (f : Filter) : List String := (f.lineRules ++ f.spanRules).map Directive.text

def closer (best : Option Directive) (d : Directive) : Option Directive :=
  match best with
  | none => some d
  | some b => if d.isCloserThan b then some d else some b

/-- The directive that decides about the lines of a target. -/
def deciding? (f : Filter) (target : String) : Option Directive :=
  (f.lineRules.filter fun d => d.matchesLines target).foldl closer none

/-- Whether the informational lines of a subsystem are shown.  Without a
directive that matches they are not. -/
def shows (f : Filter) (s : Subsystem) : Bool :=
  match f.deciding? s.target with
  | none => false
  | some d => d.severity.showsInfo

end Filter

end ReadAccess
