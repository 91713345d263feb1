/-
  Verbosity as a JSON document.
-/
import ReadAccess.Json.Reading
import ReadAccess.Text.Numeral
import ReadAccess.Verbosity.Basic

set_option autoImplicit false

namespace ReadAccess.Verbosity

open Json (Fault Result)

/-! ## Writing -/

def levelText (name : String) (level : UInt8) : String :=
  "\"" ++ name ++ "\":" ++ Text.decimal level.toNat

/-- The document of a verbosity. -/
def documentText (v : Verbosity) : String :=
  "\x7b\"subsystems\":\x7b" ++
    String.intercalate "," (Subsystem.all.map fun s => levelText s.name (v.levels.get s)) ++
    "\x7d,\"quiet\":" ++ (if v.quiet then "true" else "false") ++ "\x7d"

/-! ## Reading -/

/-- A level: a natural number up to 255. -/
def readLevel (cs : List Char) : Result UInt8 :=
  match Json.skipBlanks cs with
  | [] => .error .truncated
  | c :: rest =>
      if c == '-' || c.isDigit then
        match Json.readNumber true (c :: rest) with
        | .error fault => .error fault
        | .ok (.natural n, more) =>
            if n ≤ 255 then .ok (UInt8.ofNat n, more) else .error .mismatched
        | .ok (.other, _) => .error .mismatched
      else Json.mismatch (c :: rest)

def readSwitch (cs : List Char) : Result Bool :=
  match Json.skipBlanks cs with
  | [] => .error .truncated
  | 't' :: rest => (Json.readWord ['r', 'u', 'e'] rest).map fun more => (true, more)
  | 'f' :: rest => (Json.readWord ['a', 'l', 's', 'e'] rest).map fun more => (false, more)
  | other => Json.mismatch other

/-- Levels that are being read. -/
abbrev PartialLevels := List (Subsystem × UInt8)

def levelField (s : Subsystem) : Json.Field PartialLevels where
  name := s.name
  isSet := fun state => state.any fun entry => entry.1 == s
  read := fun state cs => (readLevel cs).map fun r => ((s, r.1) :: state, r.2)

/-- The levels that were read, if none is missing. -/
def PartialLevels.complete? (state : PartialLevels) : Option Levels := do
  let acl ← state.lookup .acl
  let identity ← state.lookup .identity
  let probe ← state.lookup .probe
  let decision ← state.lookup .decision
  return ⟨acl, identity, probe, decision⟩

def readLevels (cs : List Char) : Except Fault (Levels × List Char) := do
  let (state, rest) ← Json.readRecord (Subsystem.all.map levelField) [] cs
  match PartialLevels.complete? state with
  | some levels => .ok (levels, rest)
  | none => .error .mismatched

/-- A verbosity that is being read. -/
structure PartialDocument where
  levels : Option Levels
  quiet : Option Bool

def levelsField : Json.Field PartialDocument where
  name := "subsystems"
  isSet := fun state => state.levels.isSome
  read := fun state cs => (readLevels cs).map fun r => ({ state with levels := some r.1 }, r.2)

def quietField : Json.Field PartialDocument where
  name := "quiet"
  isSet := fun state => state.quiet.isSome
  read := fun state cs => (readSwitch cs).map fun r => ({ state with quiet := some r.1 }, r.2)

/-- The verbosity that a document describes.  Nothing but white space may stand
behind it. -/
def ofDocument (text : String) : Except Fault Verbosity := do
  let (state, rest) ← Json.readRecord [levelsField, quietField] ⟨none, none⟩ text.toList
  match state.levels, state.quiet with
  | some levels, some quiet =>
      if (Json.skipBlanks rest).isEmpty then .ok ⟨levels, quiet⟩ else .error .malformed
  | _, _ => .error .mismatched

end ReadAccess.Verbosity
