/-
  Flags of regular expressions, and the blanks and comments that one of them
  allows.
-/
import ReadAccess.Text.Blank

set_option autoImplicit false

namespace ReadAccess.Pattern

/-- The flags on which it depends whether an expression is well formed. -/
structure Flags where
  ignoreCase : Bool
  /-- The text is one of characters, and not of bytes. -/
  unicode : Bool
  /-- Blanks and comments between the parts do not count. -/
  spaced : Bool
  deriving DecidableEq, Repr

namespace Flags

def standard : Flags := ⟨false, true, false⟩

/-- The letters of all flags.  Those for lines, for greed and for line ends have
no bearing on whether an expression is well formed. -/
def letters : List Char := ['i', 'm', 's', 'U', 'u', 'R', 'x']

/-- The value of a flag after a list of letters: those behind a hyphen are
cleared, and the others set. -/
def after (items : List Char) (letter : Char) (value : Bool) : Bool :=
  if (items.takeWhile (· != '-')).contains letter then true
  else if items.contains letter then false
  else value

def apply (f : Flags) (items : List Char) : Flags :=
  ⟨after items 'i' f.ignoreCase, after items 'u' f.unicode, after items 'x' f.spaced⟩

/-- A list of flags up to the colon or the closing bracket behind it, and the
rest from there on.  Nothing may come twice, and a hyphen not last; `seen` holds
what came before, in reverse. -/
def read? : List Char → List Char → Option (List Char × List Char)
  | _, [] => none
  | seen, c :: rest =>
      if c = ':' ∨ c = ')' then
        if seen.head? = some '-' then none else some (seen.reverse, c :: rest)
      else if (c = '-' ∨ c ∈ letters) ∧ c ∉ seen then read? (c :: seen) rest
      else none

/-! ## Blanks and comments -/

/-- The text behind blanks and comments.  A comment goes from a hash mark to the
end of the line. -/
def skipBlanks : Bool → List Char → List Char
  | _, [] => []
  | true, c :: rest => if c = '\n' then skipBlanks false rest else skipBlanks true rest
  | false, c :: rest =>
      if Text.isBlank c then skipBlanks false rest
      else if c = '#' then skipBlanks true rest
      else c :: rest

def skip (f : Flags) (cs : List Char) : List Char :=
  if f.spaced then skipBlanks false cs else cs

/-- The character that is taken for the next one behind blanks.  One hash mark is
passed over like a blank, and the comment behind it is not. -/
def peek? (f : Flags) (cs : List Char) : Option Char :=
  if f.spaced then
    let rest := cs.dropWhile Text.isBlank
    let rest := if rest.head? = some '#' then rest.tail.dropWhile Text.isBlank else rest
    rest.head? <|> cs.head?
  else cs.head?

end Flags

end ReadAccess.Pattern
