/-
  Sets of characters given by ranges of code points.
-/
set_option autoImplicit false

namespace ReadAccess.Text

/-- A set of characters, as closed ranges of code points. -/
structure CharacterClass where
  ranges : List (Nat × Nat)

namespace CharacterClass

def contains (k : CharacterClass) (c : Char) : Bool :=
  k.ranges.any fun r => r.1 ≤ c.toNat && c.toNat ≤ r.2

def Mem (k : CharacterClass) (c : Char) : Prop :=
  ∃ r ∈ k.ranges, r.1 ≤ c.toNat ∧ c.toNat ≤ r.2

theorem contains_iff_mem {k : CharacterClass} {c : Char} : k.contains c = true ↔ k.Mem c := by
  simp [contains, Mem, List.any_eq_true]

instance (k : CharacterClass) (c : Char) : Decidable (k.Mem c) :=
  decidable_of_iff _ contains_iff_mem

end CharacterClass

end ReadAccess.Text
