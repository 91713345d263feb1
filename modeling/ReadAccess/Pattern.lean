/-
  Regular expressions with which a directive may compare a value.  A filter never
  sees a value, so all that matters of an expression is that it is well formed.

  There are no tables of the properties of characters: whatever needs one is not
  well formed.  Nor is what is nested too deep, and what would split a character.
-/
import ReadAccess.Pattern.Bracket
import ReadAccess.Text.Alphanumeric

set_option autoImplicit false

namespace ReadAccess.Pattern

/-- What matters of a part of an expression. -/
structure Part where
  depth : Nat
  /-- Whether the part can be repeated.  Flags cannot. -/
  repeatable : Bool
  deriving DecidableEq, Repr

/-! ## Groups -/

/-- The head of a group. -/
inductive GroupHead where
  /-- Flags alone, for what comes behind them. -/
  | flags (f : Flags)
  | opens (f : Flags) (name : Option (List Char))
  deriving DecidableEq, Repr

/-- Whether a text is a name for a group: a letter or an underscore, and then
also digits, points and brackets. -/
def isName : List Char → Bool
  | [] => false
  | c :: rest =>
      (c == '_' || Text.isAlphabetic c) &&
        rest.all fun c =>
          c == '_' || c == '.' || c == '[' || c == ']' || Text.isAlphanumeric c

/-- A named head of a group, from the name on, and the rest. -/
def readNamedHead? (f : Flags) (cs : List Char) : Option (GroupHead × List Char) :=
  let name := cs.takeWhile (· != '>')
  match cs.dropWhile (· != '>') with
  | [] => none
  | _ :: rest => if isName name then some (.opens f (some name), rest) else none

/-- The head of a group behind its opening bracket, and the rest. -/
def readHead? (f : Flags) (cs : List Char) : Option (GroupHead × List Char) :=
  match f.skip cs with
  | '?' :: 'P' :: '<' :: rest => readNamedHead? f rest
  | '?' :: '<' :: rest => readNamedHead? f rest
  | '?' :: rest =>
      match Flags.read? [] rest with
      | some (items, ':' :: more) => some (.opens (f.apply items) none, more)
      | some (items, _ :: more) =>
          if items.isEmpty then none else some (.flags (f.apply items), more)
      | _ => none
  | rest => some (.opens f none, rest)

/-! ## Expressions -/

/-- What is read of a group: how deep it is nested, the names in use, and the
rest. -/
structure Reading where
  depth : Nat
  names : List (List Char)
  rest : List Char
  deriving DecidableEq, Repr

/-- A group up to its closing bracket or to the end of the text.  `branches` holds
how deep the finished branches are nested, and `parts` the parts of the open one,
both in reverse.  Every step takes a character.  A count of repetitions is in
braces, of which no value can hold the closing one. -/
def readGroup? : Nat → Flags → List (List Char) → List Nat → List Part → List Char →
    Option Reading
  | 0, _, _, _, _, _ => none
  | steps + 1, f, names, branches, parts, cs =>
      let depth := depthOf (depthOf (parts.map (·.depth)) :: branches)
      match f.skip cs with
      | [] => some ⟨depth, names, []⟩
      | c :: rest =>
          if c = ')' then some ⟨depth, names, c :: rest⟩
          else if c = '|' then
            readGroup? steps f names (depthOf (parts.map (·.depth)) :: branches) [] rest
          else if c = '(' then
            match readHead? f rest with
            | none => none
            | some (.flags f, more) =>
                readGroup? steps f names branches (⟨0, false⟩ :: parts) more
            | some (.opens inner name, more) =>
                if name.any names.contains then none
                else
                  match readGroup? steps inner (name.toList ++ names) [] [] more with
                  | some ⟨depth, names, _ :: more⟩ =>
                      readGroup? steps f names branches (⟨depth + 1, true⟩ :: parts) more
                  | _ => none
          else if c = '*' ∨ c = '+' ∨ c = '?' then
            match parts with
            | ⟨depth, true⟩ :: parts =>
                readGroup? steps f names branches (⟨depth + 1, true⟩ :: parts)
                  (if rest.head? = some '?' then rest.tail else rest)
            | _ => none
          else if c = '[' then
            match readClass? f rest with
            | none => none
            | some (depth, more) =>
                readGroup? steps f names branches (⟨depth, true⟩ :: parts) more
          else if c = '\\' then
            match Escape.read? f rest with
            | none => none
            | some (e, more) =>
                if e.isAdmissible f then
                  readGroup? steps f names branches (⟨0, true⟩ :: parts) more
                else none
          else if c = '^' ∨ c = '$' then
            readGroup? steps f names branches (⟨0, true⟩ :: parts) rest
          else if c = '{' ∨ (c = '.' ∧ !f.unicode) then none
          else if c = '.' ∨ (Escape.character c false).isAdmissible f then
            readGroup? steps f names branches (⟨0, true⟩ :: parts) rest
          else none

def depthLimit : Nat := 250

def isWellFormed (cs : List Char) : Bool :=
  match readGroup? (cs.length + 1) .standard [] [] [] cs with
  | some ⟨depth, _, []⟩ => depth ≤ depthLimit
  | _ => false

end ReadAccess.Pattern
