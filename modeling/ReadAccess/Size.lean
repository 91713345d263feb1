/-
  Sizes: 64-bit counts with the additions and products that a sizing decision
  needs, each of them checked or saturating, none of them wrapping.
-/
import ReadAccess.Text.Numeral

set_option autoImplicit false

namespace ReadAccess

/-- A count that fits in 64 bits. -/
abbrev Size := UInt64

namespace Size

def greatest : Nat := 0xFFFFFFFFFFFFFFFF

/-- The greatest number of bytes that one allocation may have. -/
def allocationLimit : Nat := 0x7FFFFFFFFFFFFFFF

/-- The greatest count that a call taking a signed 32-bit count accepts. -/
def countLimit : Nat := 0x7FFFFFFF

def add? (a b : Size) : Option Size :=
  if a.toNat + b.toNat ≤ greatest then some (a + b) else none

def mul? (a b : Size) : Option Size :=
  if a.toNat * b.toNat ≤ greatest then some (a * b) else none

/-- The sum of two sizes, or the greatest size if the sum passes it. -/
def addUpTo (a b : Size) : Size := (add? a b).getD (UInt64.ofNat greatest)

def greater (a b : Size) : Size := if a ≤ b then b else a

theorem toNat_greater (a b : Size) : (greater a b).toNat = max a.toNat b.toNat := by
  unfold greater
  split
  · next h => exact (Nat.max_eq_right (UInt64.le_iff_toNat_le.mp h)).symm
  · next h =>
    have hle : b.toNat ≤ a.toNat :=
      Nat.le_of_not_le fun hl => h (UInt64.le_iff_toNat_le.mpr hl)
    exact (Nat.max_eq_left hle).symm

/-- A checked sum exists exactly if the sum of the values is a size, and then it
has that value. -/
theorem add?_eq_some_iff {a b c : Size} :
    add? a b = some c ↔ c.toNat = a.toNat + b.toNat := by
  unfold add?
  have hc := c.toNat_lt
  split
  · next h =>
    have hsum : (a + b).toNat = a.toNat + b.toNat := by
      rw [UInt64.toNat_add, Nat.mod_eq_of_lt (by unfold greatest at h; omega)]
    constructor
    · rintro ⟨⟩; exact hsum
    · intro hv; exact congrArg some (UInt64.toNat_inj.mp (by omega))
  · next h =>
    constructor
    · rintro ⟨⟩
    · intro hv; unfold greatest at h; omega

theorem mul?_eq_some_iff {a b c : Size} :
    mul? a b = some c ↔ c.toNat = a.toNat * b.toNat := by
  unfold mul?
  have hc := c.toNat_lt
  split
  · next h =>
    have hprod : (a * b).toNat = a.toNat * b.toNat := by
      rw [UInt64.toNat_mul, Nat.mod_eq_of_lt (by unfold greatest at h; omega)]
    constructor
    · rintro ⟨⟩; exact hprod
    · intro hv; exact congrArg some (UInt64.toNat_inj.mp (by omega))
  · next h =>
    constructor
    · rintro ⟨⟩
    · intro hv; unfold greatest at h; omega

def text (a : Size) : String := Text.decimal a.toNat

end Size

end ReadAccess
