/-
  Scanning the arguments of a command line from left to right.

  Options may stand before, between and behind the operands.  Behind two hyphens
  that stand alone, every argument is an operand.
-/
import ReadAccess.CommandLine.Usage
import ReadAccess.Size

set_option autoImplicit false

namespace ReadAccess.CommandLine

open Text (RawText)

/-! ## The form of an argument -/

/-- What an argument looks like. -/
inductive Form where
  /-- Two hyphens alone. -/
  | escape
  /-- Two hyphens and a name, perhaps with a value behind an equals sign. -/
  | long (name : RawText) (value : Option RawText)
  | short (letters : RawText)
  /-- Anything else, a single hyphen included. -/
  | operand
  deriving DecidableEq, Repr

/-- A name and, behind the first equals sign, its value. -/
def splitValue (bytes : List UInt8) : RawText × Option RawText :=
  let name : RawText := ⟨bytes.takeWhile (· != 61)⟩
  match bytes.dropWhile (· != 61) with
  | [] => (name, none)
  | _ :: value => (name, some ⟨value⟩)

def formOf (argument : RawText) : Form :=
  match argument.bytes with
  | [45, 45] => .escape
  | 45 :: 45 :: rest => .long (splitValue rest).1 (splitValue rest).2
  | 45 :: b :: rest => .short ⟨b :: rest⟩
  | _ => .operand

/-! ## What was found -/

/-- What the arguments say so far. -/
structure Found where
  help : Bool
  version : Bool
  quiet : Bool
  /-- How often more output is wanted, up to 255. -/
  verbose : UInt8
  debug : List String
  initial : Option Size
  increment : Option Size
  operands : List RawText
  deriving DecidableEq, Repr

namespace Found

def nothing : Found := ⟨false, false, false, 0, [], none, none, []⟩

def addSwitch (f : Found) : Switch → Except UsageError Found
  | .help => if f.help then .error (.repeatedSwitch .help) else .ok { f with help := true }
  | .version =>
      if f.version then .error (.repeatedSwitch .version) else .ok { f with version := true }
  | .quiet => if f.quiet then .error (.repeatedSwitch .quiet) else .ok { f with quiet := true }
  | .verbose => .ok { f with verbose := if f.verbose = 255 then 255 else f.verbose + 1 }

def sizeOf (setting : Setting) (value : RawText) : Except UsageError Size :=
  match value.toString? with
  | none => .error .invalidText
  | some text =>
      match Text.readNumeral Size.greatest text.toList with
      | .error fault => .error (.invalidNumber text setting fault)
      | .ok n => .ok (UInt64.ofNat n)

def addSetting (f : Found) (setting : Setting) (value : RawText) : Except UsageError Found :=
  match setting with
  | .debug =>
      match value.toString? with
      | none => .error .invalidText
      | some text => .ok { f with debug := f.debug ++ [text] }
  | .initialGroups =>
      if f.initial.isSome then .error (.repeatedSetting .initialGroups)
      else (sizeOf .initialGroups value).map fun n => { f with initial := some n }
  | .groupIncrement =>
      if f.increment.isSome then .error (.repeatedSetting .groupIncrement)
      else (sizeOf .groupIncrement value).map fun n => { f with increment := some n }

def addOperands (f : Found) (operands : List RawText) : Found :=
  { f with operands := f.operands ++ operands }

end Found

/-! ## The scan -/

/-- Where a scan stands: what was found, and a setting that is not looked at
yet, perhaps with the argument that is its value. -/
structure Scan where
  found : Found
  pending : Option (Setting × Option RawText)
  deriving DecidableEq, Repr

namespace Scan

def start : Scan := ⟨.nothing, none⟩

/-- What was found once the pending setting is looked at. -/
def settle (s : Scan) : Except UsageError Found :=
  match s.pending with
  | none => .ok s.found
  | some (setting, none) => .error (.missingValue setting)
  | some (setting, some value) => s.found.addSetting setting value

def onSwitch (s : Scan) (switch : Switch) : Except UsageError Scan := do
  let found ← s.settle
  let found ← found.addSwitch switch
  return ⟨found, none⟩

def onSetting (s : Scan) (setting : Setting) (value : Option RawText) : Except UsageError Scan := do
  let found ← s.settle
  match value with
  | none => return ⟨found, some (setting, none)⟩
  | some value => return ⟨← found.addSetting setting value, none⟩

def onLong (s : Scan) (name : RawText) (value : Option RawText) : Except UsageError Scan :=
  match Switch.all.find? fun switch => name == RawText.ofString switch.long with
  | some switch =>
      match value with
      | some value => .error (.unexpectedValue value.shown switch)
      | none => s.onSwitch switch
  | none =>
      match Setting.all.find? fun setting => name == RawText.ofString setting.long with
      | some setting => s.onSetting setting value
      | none => .error (.unexpectedArgument ("--" ++ name.shown))

/-- The scan after letters.  What is no character is reported with everything
behind it. -/
def onLetters (s : Scan) : List RawText.Glyph → Except UsageError Scan
  | [] => .ok s
  | .broken bytes :: rest =>
      .error (.unexpectedArgument
        ("-" ++ String.join (RawText.stretches [] (.broken bytes :: rest))))
  | .character c :: rest =>
      match Switch.all.find? fun switch => switch.short == c with
      | none => .error (.unexpectedArgument ("-" ++ c.toString))
      | some switch =>
          match s.onSwitch switch with
          | .error e => .error e
          | .ok next => next.onLetters rest

/-- The scan after an operand, which is the value of a setting that has none. -/
def onOperand (s : Scan) (argument : RawText) : Except UsageError Scan :=
  match s.pending with
  | some (setting, none) => .ok ⟨s.found, some (setting, some argument)⟩
  | _ => s.settle.map fun found => ⟨found.addOperands [argument], none⟩

/-- The scan after an argument in front of two lone hyphens. -/
def step (s : Scan) (argument : RawText) : Except UsageError Scan :=
  match formOf argument with
  | .escape => .ok s
  | .long name value => s.onLong name value
  | .short letters => s.onLetters letters.glyphs
  | .operand => s.onOperand argument

/-- What all arguments say. -/
def run (s : Scan) : List RawText → Except UsageError Found
  | [] => s.settle
  | argument :: rest =>
      if formOf argument = .escape then s.settle.map fun found => found.addOperands rest
      else
        match s.step argument with
        | .error e => .error e
        | .ok next => next.run rest

end Scan

end ReadAccess.CommandLine
