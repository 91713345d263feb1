/-
  How large a buffer for a user's groups is, and by how much it grows.
-/
import ReadAccess.Size

set_option autoImplicit false

namespace ReadAccess.Groups

/-- The sizes of a group buffer: its first capacity, and what every retry adds
to it.  A retry always adds something. -/
structure Policy where
  initial : Size
  increment : Size
  increment_pos : 0 < increment.toNat
  deriving Repr

namespace Policy

/-- Ten slots at first, and a hundred more for each retry. -/
def standard : Policy := ⟨10, 100, by decide⟩

instance : Inhabited Policy := ⟨standard⟩

def withInitial (p : Policy) (n : Size) : Policy := { p with initial := n }

/-- The policy with another increment.  An increment of nothing counts as
one. -/
def withIncrement (p : Policy) (n : Size) : Policy :=
  if h : 0 < n.toNat then ⟨p.initial, n, h⟩ else ⟨p.initial, 1, by decide⟩

/-- The capacity after an attempt with `current` slots that reported `reported`
memberships: the greater of the two and the increment.  There is none if it is
no size, if its slots take more bytes than an allocation may have, or if it is
no count that the listing call accepts. -/
def next (p : Policy) (current reported : Size) : Option Size := do
  let capacity ← Size.add? (Size.greater current reported) p.increment
  let bytes ← Size.mul? capacity 4
  if bytes.toNat ≤ Size.allocationLimit ∧ capacity.toNat ≤ Size.countLimit then some capacity
  else none

/-- The capacity that a retry would need, or the greatest size if it is none. -/
def wanted (p : Policy) (current reported : Size) : Size :=
  Size.addUpTo (Size.greater current reported) p.increment

def Allocatable (p : Policy) : Prop := 4 * p.initial.toNat ≤ Size.allocationLimit

instance (p : Policy) : Decidable p.Allocatable := inferInstanceAs (Decidable (_ ≤ _))

/-- There is a next capacity exactly if the sum fits the listing call's count;
the other limits follow. -/
theorem next_eq_some_iff {p : Policy} {current reported capacity : Size} :
    p.next current reported = some capacity ↔
      capacity.toNat = max current.toNat reported.toNat + p.increment.toNat ∧
        capacity.toNat ≤ Size.countLimit := by
  unfold next
  simp only [Option.bind_eq_bind, Option.bind_eq_some_iff]
  constructor
  · rintro ⟨c, hadd, b, _, hif⟩
    split at hif
    · next h =>
      obtain rfl := Option.some.inj hif
      rw [Size.add?_eq_some_iff, Size.toNat_greater] at hadd
      exact ⟨hadd, h.2⟩
    · cases hif
  · rintro ⟨hsum, hle⟩
    have hprod : (capacity * 4).toNat = capacity.toNat * 4 := by
      rw [UInt64.toNat_mul]
      exact Nat.mod_eq_of_lt (by unfold Size.countLimit at hle; simp; omega)
    refine ⟨capacity, ?_, capacity * 4, ?_, ?_⟩
    · rw [Size.add?_eq_some_iff, Size.toNat_greater]
      exact hsum
    · rw [Size.mul?_eq_some_iff]
      exact hprod
    · rw [if_pos ⟨by
        rw [hprod]
        unfold Size.countLimit at hle
        unfold Size.allocationLimit
        omega, hle⟩]

theorem next_eq_none_iff {p : Policy} {current reported : Size} :
    p.next current reported = none ↔
      Size.countLimit < max current.toNat reported.toNat + p.increment.toNat := by
  constructor
  · intro hnone
    refine Nat.lt_of_not_le fun hle => ?_
    have hnext : p.next current reported =
        some (UInt64.ofNat (max current.toNat reported.toNat + p.increment.toNat)) := by
      rw [next_eq_some_iff, UInt64.toNat_ofNat', Nat.mod_eq_of_lt]
      · exact ⟨rfl, hle⟩
      · exact Nat.lt_of_le_of_lt hle (by decide)
    cases hnone.symm.trans hnext
  · intro hpast
    cases hnext : p.next current reported with
    | none => rfl
    | some capacity =>
        obtain ⟨hsum, hcounted⟩ := next_eq_some_iff.mp hnext
        omega

theorem lt_next {p : Policy} {current reported capacity : Size}
    (h : p.next current reported = some capacity) : current.toNat < capacity.toNat := by
  have hn := (next_eq_some_iff.mp h).1
  have hp := p.increment_pos
  have hmax : current.toNat ≤ max current.toNat reported.toNat := Nat.le_max_left _ _
  omega

theorem next_le {p : Policy} {current reported capacity : Size}
    (h : p.next current reported = some capacity) : capacity.toNat ≤ Size.countLimit :=
  (next_eq_some_iff.mp h).2

end Policy

end ReadAccess.Groups
