/-
  Numbers in double precision, by exact arithmetic on natural numbers.

  A quotient of natural numbers has a nearest number in double precision, unless
  it lies beyond the greatest one.
-/
set_option autoImplicit false

namespace ReadAccess

/-- A number in double precision that is neither negative nor infinite: a
significand of at most 53 bits, times a power of two. -/
structure Double where
  significand : Nat
  exponent : Int
  deriving DecidableEq, Repr

namespace Double

/-- The exponent of the finest places. -/
def leastExponent : Int := -1074

/-- The exponent of the coarsest places. -/
def greatestExponent : Int := 971

/-- The least significand that uses all bits. -/
def fullSignificand : Nat := 0x10000000000000

def zero : Double := ⟨0, leastExponent⟩

/-! ## Rounding -/

/-- A quotient rounded to the nearest natural number; a half goes to the even
neighbour. -/
def roundQuotient (num den : Nat) : Nat :=
  let whole := num / den
  let rest := num % den
  if 2 * rest < den then whole
  else if den < 2 * rest then whole + 1
  else whole + whole % 2

/-- The quotient `num / den` divided by two to the power of `exponent`, as a
numerator and a denominator. -/
def unscaled (num den : Nat) (exponent : Int) : Nat × Nat :=
  if 0 ≤ exponent then (num, den <<< exponent.toNat)
  else (num <<< (-exponent).toNat, den)

/-- The exponent of the greatest power of two that a quotient reaches. -/
def magnitude (num den : Nat) : Int :=
  let estimate : Int := (num.log2 : Int) - den.log2
  let reduced := unscaled num den estimate
  if reduced.2 ≤ reduced.1 then estimate else estimate - 1

/-- The number nearest to a quotient, if it is not beyond the greatest one. -/
def nearest? (num den : Nat) : Option Double :=
  if num = 0 then some zero
  else
    let place := max leastExponent (magnitude num den - 52)
    let reduced := unscaled num den place
    let rounded := roundQuotient reduced.1 reduced.2
    let result : Double :=
      if rounded = 2 * fullSignificand then ⟨fullSignificand, place + 1⟩ else ⟨rounded, place⟩
    if result.exponent ≤ greatestExponent then some result else none

/-- The product of two numbers, rounded, if it is not beyond the greatest
number. -/
def times? (x y : Double) : Option Double :=
  let exact := unscaled (x.significand * y.significand) 1 (-(x.exponent + y.exponent))
  nearest? exact.1 exact.2

/-! ## How near rounding comes -/

/-- A rounded quotient is at most half a unit too small, and at most half a unit too large. -/
theorem roundQuotient_near {num den : Nat} (h : 0 < den) :
    2 * num ≤ 2 * (roundQuotient num den * den) + den ∧
      2 * (roundQuotient num den * den) ≤ 2 * num + den := by
  have hdiv := Nat.div_add_mod num den
  have hlt := Nat.mod_lt num h
  rw [Nat.mul_comm] at hdiv
  simp only [roundQuotient]
  split
  · omega
  · next hless =>
    split
    · rw [Nat.add_mul]
      omega
    · next hgreater =>
      -- A half is rounded down or up, and is as near in either case.
      rw [Nat.add_mul]
      obtain heven | hodd := Nat.mod_two_eq_zero_or_one (num / den)
      · rw [heven]
        omega
      · rw [hodd]
        omega

theorem roundQuotient_even_of_half {num den : Nat} (h : 2 * (num % den) = den) :
    roundQuotient num den % 2 = 0 := by
  simp only [roundQuotient, h, Nat.lt_irrefl, if_false]
  omega

end Double

end ReadAccess
