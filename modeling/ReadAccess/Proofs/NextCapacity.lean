/-
  The capacity after an attempt with too few slots.

  The next capacity is checked in three ways: it must be a size, its bytes must fit an
  allocation, and the listing call must be able to count it.  The last of these is the narrowest,
  so there is a next capacity exactly if the number of slots that is needed can be counted, and
  it is that number (`Groups.Policy.next_exactly`).
-/
import ReadAccess.Groups.Policy

set_option autoImplicit false

namespace ReadAccess.Groups.Policy

variable {p q : Policy} {current current' reported reported' capacity : Size}

/-- The number of slots that a retry needs, which may be too many for anything. -/
def needed (p : Policy) (current reported : Size) : Nat :=
  max current.toNat reported.toNat + p.increment.toNat

theorem needed_le_needed (hincrement : p.increment ≤ q.increment) (hcurrent : current ≤ current')
    (hreported : reported ≤ reported') :
    p.needed current reported ≤ q.needed current' reported' := by
  rw [UInt64.le_iff_toNat_le] at hincrement hcurrent hreported
  unfold needed
  omega

/-- The last check is the one that decides. -/
theorem next_eq_some_iff_needed :
    p.next current reported = some capacity ↔
      p.needed current reported ≤ Size.countLimit ∧
        capacity.toNat = p.needed current reported := by
  rw [next_eq_some_iff, needed]
  omega

/-- What a capacity has to be for the attempt that is made with it. -/
structure Serves (p : Policy) (current reported capacity : Size) : Prop where
  current_lt : current < capacity
  reported_lt : reported < capacity
  /-- The capacity is passed to the listing call, which counts with a sign and 32 bits. -/
  counted : (Int32.ofNat capacity.toNat).toInt = capacity.toNat
  /-- The slots can be allocated. -/
  allocatable : 4 * capacity.toNat ≤ Size.allocationLimit

theorem serves_of_next (h : p.next current reported = some capacity) :
    p.Serves current reported capacity := by
  obtain ⟨hcapacity, hcounted⟩ := next_eq_some_iff.mp h
  have hpos := p.increment_pos
  refine ⟨UInt64.lt_iff_toNat_lt.mpr (lt_next h), ?_, ?_, ?_⟩
  · rw [UInt64.lt_iff_toNat_lt]
    omega
  · exact Int32.toInt_ofNat_of_lt (Nat.lt_succ_of_le hcounted)
  · unfold Size.countLimit at hcounted
    unfold Size.allocationLimit
    omega

/-- The two operations on sizes on the way to a next capacity give the numbers that they stand
for, and nothing where such a number is no size: neither of them wraps around. -/
structure ExactSteps (p : Policy) (current reported : Size) : Prop where
  sum : ∀ slots, Size.add? (Size.greater current reported) p.increment = some slots ↔
    slots.toNat = p.needed current reported
  product : ∀ slots bytes, slots.toNat = p.needed current reported →
    (Size.mul? slots 4 = some bytes ↔ bytes.toNat = 4 * p.needed current reported)

theorem exactSteps (p : Policy) (current reported : Size) : p.ExactSteps current reported := by
  refine ⟨fun slots => ?_, fun slots bytes hslots => ?_⟩
  · rw [Size.add?_eq_some_iff, Size.toNat_greater, needed]
  · rw [Size.mul?_eq_some_iff, hslots, Nat.mul_comm]
    rfl

/-- **There is a next capacity exactly if the number of slots that is needed can be counted, and
then it is that number.**  None of the operations on the way to it wraps around.  It grows with
both counts and with the increment, and once there is none, more of any of them gives none. -/
theorem next_exactly (p : Policy) (current reported : Size) :
    (∀ capacity, p.next current reported = some capacity ↔
        p.needed current reported ≤ Size.countLimit ∧
          capacity.toNat = p.needed current reported) ∧
      ((p.next current reported).isSome ↔ p.needed current reported ≤ Size.countLimit) ∧
      (∀ capacity, p.next current reported = some capacity →
        p.Serves current reported capacity) ∧
      p.ExactSteps current reported ∧
      ∀ (q : Policy) (current' reported' : Size), p.increment ≤ q.increment → current ≤ current' →
        reported ≤ reported' →
          (p.next current reported = none → q.next current' reported' = none) ∧
          ∀ capacity capacity', p.next current reported = some capacity →
            q.next current' reported' = some capacity' → capacity ≤ capacity' := by
  refine ⟨fun capacity => next_eq_some_iff_needed, ?_, fun capacity => serves_of_next,
    exactSteps p current reported, fun q current' reported' hincrement hcurrent hreported => ?_⟩
  · rw [Option.isSome_iff_ne_none, ne_eq, next_eq_none_iff, Nat.not_lt]
    rfl
  · have hle := needed_le_needed hincrement hcurrent hreported
    refine ⟨fun hnone => ?_, fun capacity capacity' hnext hnext' => ?_⟩
    · rw [next_eq_none_iff] at hnone ⊢
      exact Nat.lt_of_lt_of_le hnone hle
    · rw [UInt64.le_iff_toNat_le, (next_eq_some_iff_needed.mp hnext).2,
        (next_eq_some_iff_needed.mp hnext').2]
      exact hle

/-- At the limit a slot more is too many, and stays so with a larger increment. -/
theorem next_exactly_atLimit :
    standard.next 2147483547 7 = some 2147483647 ∧
      standard.Serves 2147483547 7 2147483647 ∧
      standard.next 2147483548 7 = none ∧
      (standard.withIncrement 200).next 2147483548 0xFFFFFFFFFFFFFFFF = none := by
  obtain ⟨hiff, -, hserves, -⟩ := next_exactly standard 2147483547 7
  obtain ⟨-, hsome, -, -, hmore⟩ := next_exactly standard 2147483548 7
  have hnext : standard.next 2147483547 7 = some 2147483647 := (hiff _).mpr (by decide)
  have hnone : standard.next 2147483548 7 = none :=
    Option.not_isSome_iff_eq_none.mp (mt hsome.mp (by decide))
  refine ⟨hnext, hserves _ hnext, hnone, ?_⟩
  exact (hmore (standard.withIncrement 200) _ _ (by decide) (by decide) (by decide)).1 hnone

end ReadAccess.Groups.Policy
