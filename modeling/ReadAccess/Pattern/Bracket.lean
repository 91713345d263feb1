/-
  Classes of characters between brackets in a regular expression.

  Of a class it matters how deep it is nested: every bracket, repetition and
  combination counts one more than what it holds, and so do several parts side by
  side.  In a text of bytes a class may not hold bytes beyond ASCII, for these would
  split characters, so no class is negated there.
-/
import ReadAccess.Pattern.Escape

set_option autoImplicit false

namespace ReadAccess.Pattern

/-- How deep parts of the given depths are nested side by side.  A part by itself
is not nested by that. -/
def depthOf : List Nat → Nat
  | [] => 0
  | [d] => d
  | ds => ds.foldl max 0 + 1

/-! ## Members -/

def readMember? (f : Flags) : List Char → Option (Escape × List Char)
  | [] => none
  | c :: rest => if c = '\\' then Escape.read? f rest else some (.character c false, rest)

/-- Whether a character can be in a class.  The case of characters cannot be
folded, and in a text of bytes only ASCII counts. -/
def admitsMember (f : Flags) (c : Char) : Bool :=
  if f.unicode then !f.ignoreCase else c.toNat < 0x80

def admitsSingle (f : Flags) (e : Escape) : Bool :=
  match e with
  | .character c _ => admitsMember f c
  | .kind _ => e.isAdmissible f
  | _ => false

def admitsRange (f : Flags) : Escape → Escape → Bool
  | .character c _, .character d _ => admitsMember f c && admitsMember f d && c ≤ d
  | _, _ => false

/-- The rest behind a member of a class or a range of them.  A hyphen in front of
a closing bracket or of another hyphen makes no range. -/
def skipMembers? (f : Flags) (cs : List Char) : Option (List Char) := do
  let (first, rest) ← readMember? f cs
  match f.skip rest with
  | '-' :: more =>
      if f.peek? more = some ']' ∨ f.peek? more = some '-' then
        if admitsSingle f first then some ('-' :: more) else none
      else
        let (last, more) ← readMember? f (f.skip more)
        if admitsRange f first last then some more else none
  | rest => if admitsSingle f first then some rest else none

/-! ## Named classes -/

def classNames : List String :=
  ["alnum", "alpha", "ascii", "blank", "cntrl", "digit", "graph", "lower", "print", "punct",
    "space", "upper", "word", "xdigit"]

/-- Whether the named class that stands behind an opening bracket is negated, and
the rest behind it, if one stands there. -/
def readNamed? : List Char → Option (Bool × List Char)
  | ':' :: rest =>
      let negated := rest.head? == some '^'
      let rest := if negated then rest.tail else rest
      match rest.dropWhile (· != ':') with
      | ':' :: ']' :: more =>
          if classNames.contains (String.ofList (rest.takeWhile (· != ':'))) then
            some (negated, more)
          else none
      | _ => none
  | _ => none

def admitsNamed (f : Flags) (negated : Bool) : Bool :=
  if f.unicode then !f.ignoreCase else !negated

/-! ## Classes -/

/-- The hyphens in front of a text, one for each step at most, and the rest. -/
def readHyphens (f : Flags) : Nat → List Char → List Char × List Char
  | steps + 1, '-' :: rest =>
      let (hyphens, more) := readHyphens f steps (f.skip rest)
      ('-' :: hyphens, more)
  | _, cs => ([], cs)

/-- The head of a class, behind its opening bracket: whether it is negated, the
characters that stand for themselves there, and the rest.  Those are hyphens, or
else one closing bracket. -/
def enterClass (f : Flags) (cs : List Char) : Bool × List Char × List Char :=
  let cs := f.skip cs
  let negated := cs.head? == some '^'
  let cs := if negated then f.skip cs.tail else cs
  let (hyphens, rest) := readHyphens f cs.length cs
  if hyphens.isEmpty && rest.head? == some ']' then (negated, [']'], f.skip rest.tail)
  else (negated, hyphens, rest)

/-- How deep the leading characters of a class are nested, if the class can begin
with them, negated or not. -/
def admitHead? (f : Flags) (negated : Bool) (leading : List Char) : Option (List Nat) :=
  if (f.unicode || !negated) && leading.all (admitsMember f) then some (leading.map fun _ => 0)
  else none

/-- Whether a character stands twice for an operator: for what is in both of two
parts of a class, in the first alone, or in one alone. -/
def isOperator (c : Char) : Bool := c == '&' || c == '-' || c == '~'

/-- How deep parts are nested that stand behind an operator, if there is one, and
what stands before it. -/
def joinedDepth (left : Option Nat) (parts : List Nat) : Nat :=
  match left with
  | none => depthOf parts
  | some d => max d (depthOf parts) + 1

/-- How deep the inside of a class is nested, up to its closing bracket, and the
rest behind that.  `left` is the depth of what stands before the last operator,
and `parts` those of what stands behind it.  Every step takes a character. -/
def readParts? (f : Flags) : Nat → Option Nat → List Nat → List Char →
    Option (Nat × List Char)
  | 0, _, _, _ => none
  | steps + 1, left, parts, cs =>
      match f.skip cs with
      | [] => none
      | c :: rest =>
          if c = ']' then some (joinedDepth left parts, rest)
          else if c = '[' then
            match readNamed? rest with
            | some (negated, more) =>
                if admitsNamed f negated then readParts? f steps left (0 :: parts) more else none
            | none => do
                let (negated, leading, more) := enterClass f rest
                let first ← admitHead? f negated leading
                let (depth, more) ← readParts? f steps none first more
                readParts? f steps left ((depth + 1) :: parts) more
          else if isOperator c ∧ rest.head? = some c then
            readParts? f steps (some (joinedDepth left parts)) [] rest.tail
          else do
            let more ← skipMembers? f (c :: rest)
            readParts? f steps left (0 :: parts) more

/-- How deep the class is nested that stands behind an opening bracket, and the
rest behind it. -/
def readClass? (f : Flags) (cs : List Char) : Option (Nat × List Char) := do
  let (negated, leading, rest) := enterClass f cs
  let first ← admitHead? f negated leading
  let (depth, rest) ← readParts? f (cs.length + 1) none first rest
  return (depth + 1, rest)

end ReadAccess.Pattern
