/-
  What stands behind a backslash in a regular expression.
-/
import ReadAccess.Pattern.Flags
import ReadAccess.Text.Numeral

set_option autoImplicit false

namespace ReadAccess.Pattern

/-- What an escape stands for.  Classes of characters by property need tables
that there are not, so no escape stands for one. -/
inductive Escape where
  /-- A character; `byByte` if it is written as the code of a byte. -/
  | character (c : Char) (byByte : Bool)
  /-- A place at which a word begins or ends, or does not. -/
  | wordEdge
  | textEdge
  /-- Digits, blanks or the characters of words, or everything else. -/
  | kind (negated : Bool)
  deriving DecidableEq, Repr

namespace Escape

/-- The number that so many hexadecimal digits write, onto `acc`, and the rest.
Blanks that do not count may stand behind each digit. -/
def readDigits? (f : Flags) : Nat → Nat → List Char → Option (Nat × List Char)
  | 0, acc, cs => some (acc, cs)
  | _ + 1, _, [] => none
  | count + 1, acc, c :: rest =>
      match Text.hexValue? c with
      | none => none
      | some d => readDigits? f count (acc * 16 + d) (f.skip rest)

/-- The character whose code is written in so many hexadecimal digits, and the
rest. -/
def readCode? (f : Flags) (count : Nat) (byByte : Bool) (cs : List Char) :
    Option (Escape × List Char) :=
  match readDigits? f count 0 (f.skip cs) with
  | none => none
  | some (n, rest) =>
      if n.isValidChar then some (.character (Char.ofNat n) byByte, rest) else none

/-- Whether a character may be escaped and stands for itself then. -/
def isMark (c : Char) : Bool := c.toNat < 0x80 && !c.isAlphanum && c != '<' && c != '>'

def read? (f : Flags) : List Char → Option (Escape × List Char)
  | [] => none
  | c :: rest =>
      if isMark c then some (.character c false, rest)
      else
        match c with
        | 'a' => some (.character '\x07' false, rest)
        | 'f' => some (.character '\x0c' false, rest)
        | 't' => some (.character '\t' false, rest)
        | 'n' => some (.character '\n' false, rest)
        | 'r' => some (.character '\r' false, rest)
        | 'v' => some (.character '\x0b' false, rest)
        | 'x' => readCode? f 2 true rest
        | 'u' => readCode? f 4 false rest
        | 'U' => readCode? f 8 false rest
        | 'A' => some (.textEdge, rest)
        | 'z' => some (.textEdge, rest)
        | 'b' => some (.wordEdge, rest)
        | 'B' => some (.wordEdge, rest)
        | '<' => some (.wordEdge, rest)
        | '>' => some (.wordEdge, rest)
        | 'd' => some (.kind false, rest)
        | 's' => some (.kind false, rest)
        | 'w' => some (.kind false, rest)
        | 'D' => some (.kind true, rest)
        | 'S' => some (.kind true, rest)
        | 'W' => some (.kind true, rest)
        | _ => none

/-- Whether an escape can stand in an expression by itself.  Folding the case of
characters, edges of words and kinds of characters need tables beyond bytes; a
byte by itself must be a character. -/
def isAdmissible (f : Flags) : Escape → Bool
  | .character c byByte => if f.unicode then !f.ignoreCase else !byByte || c.toNat < 0x80
  | .wordEdge => !f.unicode
  | .textEdge => true
  | .kind negated => !f.unicode && !negated

end Escape

end ReadAccess.Pattern
