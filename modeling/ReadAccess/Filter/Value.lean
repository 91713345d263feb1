/-
  Values with which a directive compares a field, and how they are written.
-/
import ReadAccess.Double.Decimal
import ReadAccess.Pattern
import ReadAccess.Text.Numeral

set_option autoImplicit false

namespace ReadAccess

/-- A value with which a directive compares a field. -/
inductive FieldValue where
  | truth (b : Bool)
  /-- A natural number of 64 bits. -/
  | natural (n : Nat)
  /-- A negative integer of 64 bits, by its size. -/
  | negative (size : Nat)
  | decimal (value : DoubleValue)
  | pattern (expression : String)
  deriving DecidableEq, Repr

namespace FieldValue

/-- A value as it is written.  There is no negative zero among the integers. -/
def text : FieldValue → String
  | .truth b => if b then "true" else "false"
  | .natural n => Text.decimal n
  | .negative size => Text.signedDecimal (-(size : Int))
  | .decimal value => value.text
  | .pattern expression => expression

/-- Whether two values are of one form and equal. -/
def same : FieldValue → FieldValue → Bool
  | .decimal v, .decimal w => v.same w
  | v, w => v == w

def naturalOf? (cs : List Char) : Option FieldValue :=
  match Text.readNumeral 0xFFFFFFFFFFFFFFFF cs with
  | .ok n => some (.natural n)
  | .error _ => none

def negativeOf? : List Char → Option FieldValue
  | '-' :: c :: rest =>
      match Text.readDigits 0x8000000000000000 0 (c :: rest) with
      | .ok size => some (.negative size)
      | .error _ => none
  | _ => none

def patternOf? (cs : List Char) : Option FieldValue :=
  if Pattern.isWellFormed cs then some (.pattern (String.ofList cs)) else none

/-- The value that a text writes: a truth value if it can be, else a number, and
else an expression. -/
def ofText? (cs : List Char) : Option FieldValue :=
  if cs = ['t', 'r', 'u', 'e'] then some (.truth true)
  else if cs = ['f', 'a', 'l', 's', 'e'] then some (.truth false)
  else
    naturalOf? cs <|> negativeOf? cs <|> (DoubleValue.ofText? cs).map .decimal <|> patternOf? cs

end FieldValue

end ReadAccess
