/-
  Debug flags: a list of tokens, each of which sets the level of one subsystem
  or of all.

  A token is a name, or a name with a level in base ten right behind it.  Tokens
  stand between commas; blanks around them do not count, and neither do empty
  ones.
-/
import ReadAccess.Text.Blank
import ReadAccess.Text.Numeral
import ReadAccess.Text.Split
import ReadAccess.Verbosity.Basic

set_option autoImplicit false

namespace ReadAccess

/-- Why a token is no debug flag. -/
inductive FlagFault where
  | empty
  /-- The token starts with its level. -/
  | missingName (token : String)
  /-- What follows the name is no level. -/
  | invalidLevel (token : String)
  | unknown (name : String)
  deriving DecidableEq, Repr

def FlagFault.message : FlagFault → String
  | .empty => "empty flag token"
  | .missingName token => "missing flag name in: " ++ token
  | .invalidLevel token => "invalid level in flag: " ++ token
  | .unknown name => "unknown debug flag: " ++ name

/-- Which levels a flag sets. -/
inductive FlagScope where
  | all
  | one (subsystem : Subsystem)
  deriving DecidableEq, Repr

/-- A flag: which levels it sets, and to what. -/
structure DebugFlag where
  scope : FlagScope
  level : UInt8
  deriving DecidableEq, Repr

namespace DebugFlag

def greatestLevel : Nat := 255

/-- The name of a token: what stands in front of its first digit. -/
def nameOf (token : List Char) : List Char := token.takeWhile fun c => !c.isDigit

/-- What a token has from its first digit on. -/
def levelOf (token : List Char) : List Char := token.dropWhile fun c => !c.isDigit

def scopeOf? (name : String) : Option FlagScope :=
  if name = "all" then some .all else (Subsystem.ofName? name).map .one

/-- The level that digits write; no digits write the first level. -/
def readLevel (token digits : List Char) : Except FlagFault UInt8 :=
  if digits.isEmpty then .ok 1
  else
    match Text.readDigits greatestLevel 0 digits with
    | .ok n => .ok (UInt8.ofNat n)
    | .error _ => .error (.invalidLevel (String.ofList token))

/-- The flag of a token.  A fault of the level comes before a fault of the
name. -/
def ofToken (token : List Char) : Except FlagFault DebugFlag :=
  if token.isEmpty then .error .empty
  else if (nameOf token).isEmpty then .error (.missingName (String.ofList token))
  else
    match readLevel token (levelOf token) with
    | .error fault => .error fault
    | .ok level =>
        match scopeOf? (String.ofList (nameOf token)) with
        | none => .error (.unknown (String.ofList (nameOf token)))
        | some scope => .ok ⟨scope, level⟩

def applyTo (f : DebugFlag) (l : Levels) : Levels :=
  match f.scope with
  | .all => .uniform f.level
  | .one s => l.set s f.level

end DebugFlag

namespace Verbosity

def withFlag (v : Verbosity) (f : DebugFlag) : Verbosity := { v with levels := f.applyTo v.levels }

def applyToken (v : Verbosity) (token : String) : Except FlagFault Verbosity :=
  (DebugFlag.ofToken token.toList).map v.withFlag

/-- The verbosity after tokens, and the fault of the first one that is no flag.
That one and those behind it change nothing. -/
def applyTokens (v : Verbosity) : List (List Char) → Verbosity × Option FlagFault
  | [] => (v, none)
  | token :: rest =>
      match DebugFlag.ofToken token with
      | .error fault => (v, some fault)
      | .ok flag => (v.withFlag flag).applyTokens rest

def tokensOf (list : String) : List (List Char) :=
  ((Text.splitOn ',' list.toList).map Text.trim).filter fun token => !token.isEmpty

/-- The verbosity after a list of tokens, and the fault of the first one that is
no flag. -/
def applyFlags (v : Verbosity) (list : String) : Verbosity × Option FlagFault :=
  v.applyTokens (tokensOf list)

/-- The verbosity after several lists; the first fault ends it. -/
def applyFlagLists (v : Verbosity) : List String → Except FlagFault Verbosity
  | [] => .ok v
  | list :: rest =>
      match v.applyFlags list with
      | (_, some fault) => .error fault
      | (next, none) => next.applyFlagLists rest

end Verbosity

end ReadAccess
