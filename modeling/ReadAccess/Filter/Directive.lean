/-
  Directives of a log filter: a severity for some of what can be logged.

  A directive may be about a target, about the spans of a name, and about a field
  with or without a value.  It is written
  `target[span{field=value}]=severity`, where any part may be missing.
-/
import ReadAccess.Filter.Value
import ReadAccess.Size
import ReadAccess.Text.Alphanumeric
import ReadAccess.Text.Blank
import ReadAccess.Text.Excerpt
import ReadAccess.Text.Split
import ReadAccess.Verbosity.Basic

set_option autoImplicit false

namespace ReadAccess

/-- What a directive asks of a field: that it is there, or that it has a
value. -/
structure FieldTest where
  name : String
  value : Option FieldValue
  deriving DecidableEq, Repr

namespace FieldTest

def text (t : FieldTest) : String :=
  match t.value with
  | none => t.name
  | some v => t.name ++ "=" ++ v.text

def same (t u : FieldTest) : Bool :=
  t.name == u.name &&
    match t.value, u.value with
    | none, none => true
    | some v, some w => v.same w
    | _, _ => false

/-- The test that a text writes: a name, or a name and a value.  What follows a
second equals sign does not count. -/
def ofText? (cs : List Char) : Option FieldTest :=
  match Text.splitOn '=' cs with
  | name :: value :: _ =>
      (FieldValue.ofText? value).map fun v => ⟨String.ofList name, some v⟩
  | _ => some ⟨String.ofList cs, none⟩

end FieldTest

/-- What a directive is about: the targets that start with `target`, within the
spans of a name, and where a field passes a test. -/
structure Subject where
  target : Option String
  span : Option String
  field : Option FieldTest
  deriving DecidableEq, Repr

namespace Subject

def same (s t : Subject) : Bool :=
  s.target == t.target && s.span == t.span &&
    match s.field, t.field with
    | none, none => true
    | some f, some g => f.same g
    | _, _ => false

/-- Whether lines of the log are a subject by themselves.  Spans and values are
no matter of single lines. -/
def isOfLines (s : Subject) : Bool :=
  s.span.isNone &&
    match s.field with
    | none => true
    | some test => test.value.isNone

/-- Whether a subject has to be asked for at every span. -/
def isOfSpans (s : Subject) : Bool := s.span.isSome || s.field.isSome

end Subject

/-- A directive: a severity for a subject. -/
structure Directive extends Subject where
  severity : Severity
  deriving DecidableEq, Repr

namespace Directive

/-- A directive about a target, or about all of them. -/
def plain (target : Option String) (severity : Severity) : Directive :=
  ⟨⟨target, none, none⟩, severity⟩

/-! ## Writing -/

/-- The part of a directive between brackets, if there is one. -/
def bracketed (d : Directive) : String :=
  if d.isOfSpans then
    "[" ++ d.span.getD "" ++
      (match d.field with
        | none => ""
        | some test => "\x7b" ++ test.text ++ "\x7d") ++ "]"
  else ""

def text (d : Directive) : String :=
  if d.target.isSome || d.isOfSpans then
    d.target.getD "" ++ d.bracketed ++ "=" ++ d.severity.text
  else d.severity.text

/-! ## Reading -/

/-- The severity that a text names, in letters of any case or as its rank. -/
def severityOf? (cs : List Char) : Option Severity :=
  match Text.readNumeral Size.greatest cs with
  | .ok n => Severity.all[n]?
  | .error _ => Severity.all.find? fun s => s.text.toList == cs.map Char.toLower

/-- The severity behind an equals sign.  Without a text everything is shown. -/
def severityBehind? (cs : List Char) : Option Severity :=
  if cs.isEmpty then some .trace else severityOf? cs

/-- Whether a directive may start with a character: a letter, a digit, a hyphen,
a colon, an underscore or an opening bracket. -/
def mayStart (c : Char) : Bool :=
  Text.isAlphanumeric c || c == '-' || c == ':' || c == '_' || c == '['

/-- The directive that a text without an equals sign and brackets writes: a
severity, or a target of which everything is shown. -/
def ofWord (cs : List Char) : Directive :=
  match severityOf? cs with
  | some severity => plain none severity
  | none => plain (some (String.ofList cs)) .trace

/-- Why a text writes no directive. -/
inductive Fault where
  | malformed
  /-- A part of the text would have to be cut within a character. -/
  | splits (s : Text.SplitCharacter)
  deriving DecidableEq, Repr

/-- What a directive needs and a text may not write. -/
def required {α : Type} : Option α → Except Fault α
  | some a => .ok a
  | none => .error .malformed

/-- The piece of a text between two places. -/
def piece (cs : List Char) (start stop : Nat) : Except Fault (List Char) :=
  match Text.excerpt cs start stop with
  | .ok found => .ok found
  | .error s => .error (.splits s)

/-- The subject of a directive with brackets, and the text behind them.  `target`
stands before the brackets and `inside` is the text behind the opening one; `cut`
takes the text between two places, each given by what follows it. -/
def bracketSubject (cut : List Char → List Char → Except Fault (List Char))
    (target : Option String) (inside : List Char) : Except Fault (Subject × List Char) :=
  let behind := inside.dropWhile fun c => c != ']' && c != '{'
  match behind with
  | ']' :: rest => do
      let name ← cut inside behind
      return (⟨target, some (String.ofList name), none⟩, rest)
  | '{' :: fields => do
      let name ← cut inside behind
      let behindField := fields.dropWhile (· != '}')
      if behindField.isEmpty then throw .malformed
      let field ← cut fields behindField
      if field.isEmpty then throw .malformed
      let test ← required (FieldTest.ofText? field)
      let span := if name.isEmpty then none else some (String.ofList name)
      match behindField with
      | '}' :: ']' :: rest => return (⟨target, span, some test⟩, rest)
      | _ => throw .malformed
  | _ => throw .malformed

/-- The directive that a text writes.  The text is looked through without its
outer blanks, but each part is cut from the text with them, at the same count of
bytes.  Only a text that is a word alone is left whole by blanks in front. -/
def ofText (cs : List Char) : Except Fault Directive := do
  let scanned := Text.trim cs
  let place (rest : List Char) : Nat := Text.byteCount scanned - Text.byteCount rest
  let cut (start stop : List Char) : Except Fault (List Char) := piece cs (place start) (place stop)
  let severityFrom (rest : List Char) : Except Fault Severity := do
    required (severityBehind? (← piece cs (place rest) (Text.byteCount cs)))
  let first ← required scanned.head?
  if !mayStart first then throw .malformed
  let behind := scanned.dropWhile fun c => c != '=' && c != '['
  match behind with
  | '=' :: rest =>
      let target ← cut scanned behind
      return plain (some (String.ofList target)) (← severityFrom rest)
  | '[' :: inside =>
      let target ← if first = '[' then pure none
        else (cut scanned behind).map fun target => some (String.ofList target)
      let (subject, rest) ← bracketSubject cut target inside
      match rest with
      | [] => return ⟨subject, .trace⟩
      | '=' :: rest => return ⟨subject, ← severityFrom rest⟩
      | _ => throw .malformed
  | _ => return ofWord cs

end Directive

end ReadAccess
