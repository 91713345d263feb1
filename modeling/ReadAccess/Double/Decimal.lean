/-
  Numbers in double precision in base ten: the fewest digits that read back, and
  numerals read as the nearest number.
-/
import ReadAccess.Double
import ReadAccess.Text.Numeral

set_option autoImplicit false

namespace ReadAccess

namespace Double

/-! ## Writing -/

/-- A number and the bounds of what rounds to it, on a scale that they share with
a step of a decimal grid. -/
structure OnGrid where
  step : Nat
  value : Nat
  /-- The lower bound of what rounds to the number. -/
  low : Nat
  high : Nat
  /-- Whether the bounds themselves round to the number. -/
  closed : Bool

/-- A number beside the grid whose step is ten to the power of `place`.  Quarters
of the number's last bit are the finest that is needed: below a full significand
the neighbour is only half as far. -/
def onGrid (x : Double) (place : Int) : OnGrid :=
  let quarter := x.exponent - 2
  let scale (n : Nat) : Nat := (n <<< quarter.toNat) * Nat.pow 10 (-place).toNat
  let isEdge := x.significand = fullSignificand ∧ leastExponent < x.exponent
  { step := Nat.pow 10 place.toNat <<< (-quarter).toNat
    value := scale (4 * x.significand)
    low := scale (4 * x.significand - if isEdge then 1 else 2)
    high := scale (4 * x.significand + 2)
    closed := x.significand % 2 = 0 }

/-- Whether a multiple of the step rounds to the number. -/
def OnGrid.readsBack (g : OnGrid) (n : Nat) : Bool :=
  if g.closed then g.low ≤ n * g.step && n * g.step ≤ g.high
  else g.low < n * g.step && n * g.step < g.high

/-- The multiple of the step that is nearest to the number, among those that
round to it; of two that are equally near, the greater one. -/
def OnGrid.nearest? (g : OnGrid) : Option Nat :=
  let below := g.value / g.step
  match g.readsBack below, g.readsBack (below + 1) with
  | true, true => some (if 2 * (g.value % g.step) < g.step then below else below + 1)
  | true, false => some below
  | false, true => some (below + 1)
  | false, false => none

theorem OnGrid.readsBack_of_nearest? {g : OnGrid} {n : Nat} (h : g.nearest? = some n) :
    g.readsBack n = true := by
  simp only [OnGrid.nearest?] at h
  split at h <;> simp only [Option.some.injEq, reduceCtorEq] at h
  · subst h
    split <;> assumption
  · subst h
    assumption
  · subst h
    assumption

/-- A place above that of the first digit. -/
def topPlace (x : Double) : Int :=
  (x.exponent + x.significand.log2 + 1) * 30103 / 100000 + 2

/-- The fewest digits that read back as the number, and the place of the last of
them.  Seventeen digits are always enough. -/
def shortest (x : Double) : Nat × Int :=
  let digitsAt (i : Nat) : Option (Nat × Int) :=
    let place := x.topPlace - (i : Int)
    (x.onGrid place).nearest?.map fun n => (n, place)
  ((List.range 24).findSome? digitsAt).getD (0, 0)

/-- A natural number times ten to the power of `place`, in positional notation. -/
def positional (n : Nat) (place : Int) : String :=
  let digits := Nat.toDigits 10 n
  if 0 ≤ place then String.ofList (digits ++ List.replicate place.toNat '0')
  else
    let places := (-place).toNat
    let padded := List.replicate (places + 1 - digits.length) '0' ++ digits
    String.ofList (padded.take (padded.length - places) ++ '.' ::
      padded.drop (padded.length - places))

/-- A number in positional notation, with the fewest digits that read back. -/
def text (x : Double) : String :=
  if x.significand = 0 then "0" else positional x.shortest.1 x.shortest.2

end Double

/-- What a numeral in double precision stands for. -/
inductive DoubleValue where
  | notANumber
  | infinite (negative : Bool)
  | finite (negative : Bool) (size : Double)
  deriving DecidableEq, Repr

namespace DoubleValue

def signText (negative : Bool) : String := if negative then "-" else ""

def text : DoubleValue → String
  | .notANumber => "NaN"
  | .infinite negative => signText negative ++ "inf"
  | .finite negative size => signText negative ++ size.text

/-- Whether two values are the same number; zero has no sign then. -/
def same : DoubleValue → DoubleValue → Bool
  | .finite n x, .finite m y => x == y && (n == m || x.significand == 0)
  | v, w => v == w

/-! ## Reading -/

/-- The number nearest to `n` times ten to the power of `place`. -/
def ofScientific (negative : Bool) (n : Nat) (place : Int) : DoubleValue :=
  let size : Int := (Nat.toDigits 10 n).length + place
  if n = 0 ∨ size < -400 then .finite negative .zero
  else if 400 < size then .infinite negative
  else
    match Double.nearest? (n * Nat.pow 10 place.toNat) (Nat.pow 10 (-place).toNat) with
    | some size => .finite negative size
    | none => .infinite negative

/-- The exponent of a numeral, from its mark on. -/
def exponentOf? : List Char → Option Int
  | [] => some 0
  | mark :: rest =>
      if mark = 'e' ∨ mark = 'E' then
        let digits := if rest.head? = some '-' ∨ rest.head? = some '+' then rest.tail else rest
        if digits.isEmpty || !digits.all Char.isDigit then none
        else
          let size : Int := Nat.ofDigitChars 10 digits 0
          some (if rest.head? = some '-' then -size else size)
      else none

/-- The value of a numeral without a sign: digits with a point somewhere, at
least one of them, and an exponent. -/
def ofDecimal? (negative : Bool) (cs : List Char) : Option DoubleValue :=
  let whole := cs.takeWhile Char.isDigit
  let rest := cs.dropWhile Char.isDigit
  let behind := if rest.head? = some '.' then rest.tail else []
  let fraction := behind.takeWhile Char.isDigit
  let tail := if rest.head? = some '.' then behind.dropWhile Char.isDigit else rest
  if whole.isEmpty && fraction.isEmpty then none
  else
    (exponentOf? tail).map fun exponent =>
      ofScientific negative (Nat.ofDigitChars 10 (whole ++ fraction) 0)
        (exponent - fraction.length)

def ofUnsigned? (negative : Bool) (cs : List Char) : Option DoubleValue :=
  let word := cs.map Char.toLower
  if word = ['n', 'a', 'n'] then some .notANumber
  else if word = ['i', 'n', 'f'] ∨ word = "infinity".toList then some (.infinite negative)
  else ofDecimal? negative cs

def ofText? : List Char → Option DoubleValue
  | [] => none
  | c :: rest =>
      if c = '-' then ofUnsigned? true rest
      else if c = '+' then ofUnsigned? false rest
      else ofUnsigned? false (c :: rest)

end DoubleValue

end ReadAccess
