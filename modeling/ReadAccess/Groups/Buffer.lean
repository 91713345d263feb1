/-
  A buffer for groups: a number of slots that hold zero until they are written.
-/
import ReadAccess.Identity
import ReadAccess.Size

set_option autoImplicit false

namespace ReadAccess.Groups

/-- A buffer of `size` slots.  Only the slots up to the last one that was ever
written are kept; the rest hold zero, so that a large buffer costs nothing. -/
structure Buffer where
  size : Size
  written : List Gid
  /-- Nothing is written past the last slot. -/
  fits : written.length ≤ size.toNat

namespace Buffer

def zeros (size : Size) : Buffer := ⟨size, [], Nat.zero_le _⟩

def slots (b : Buffer) : List Gid :=
  b.written ++ List.replicate (b.size.toNat - b.written.length) 0

/-- The first `n` slots, or all of them if there are fewer. -/
def front (b : Buffer) (n : Size) : List Gid :=
  let k := min n.toNat b.size.toNat
  b.written.take k ++ List.replicate (k - b.written.length) 0

/-- The buffer with its first slots overwritten by `gids`, as far as they
fit. -/
def overwrite (b : Buffer) (gids : List Gid) : Buffer :=
  ⟨b.size, gids.take b.size.toNat ++ b.written.drop gids.length, by
    have := b.fits
    simp only [List.length_append, List.length_take, List.length_drop]
    omega⟩

/-- The buffer with `size` slots; the new ones hold zero. -/
def grow (b : Buffer) (size : Size) (h : b.size.toNat ≤ size.toNat) : Buffer :=
  ⟨size, b.written, Nat.le_trans b.fits h⟩

@[simp] theorem length_slots (b : Buffer) : b.slots.length = b.size.toNat := by
  have := b.fits
  simp only [slots, List.length_append, List.length_replicate]
  omega

@[simp] theorem slots_zeros (size : Size) :
    (zeros size).slots = List.replicate size.toNat 0 := by
  simp [slots, zeros]

theorem front_eq_take (b : Buffer) (n : Size) : b.front n = b.slots.take n.toNat := by
  have hfit := b.fits
  have htake : b.slots.take n.toNat = b.slots.take (min n.toNat b.size.toNat) := by
    rw [← length_slots b]
    simp
  rw [htake]
  simp only [front, slots, List.take_append, List.take_replicate]
  congr 2
  omega

/-- The slots of an overwritten buffer: what was written, then what was there
before. -/
theorem slots_overwrite (b : Buffer) (gids : List Gid) :
    (b.overwrite gids).slots = gids.take b.size.toNat ++ b.slots.drop gids.length := by
  have hfit := b.fits
  simp only [overwrite, slots, List.append_assoc, List.drop_append, List.drop_replicate]
  congr 2
  simp only [List.length_append, List.length_take, List.length_drop]
  congr 1
  omega

theorem slots_grow (b : Buffer) (size : Size) (h : b.size.toNat ≤ size.toNat) :
    (b.grow size h).slots = b.slots ++ List.replicate (size.toNat - b.size.toNat) 0 := by
  have hfit := b.fits
  simp only [grow, slots, List.append_assoc, List.replicate_append_replicate]
  congr 2
  omega

end Buffer

end ReadAccess.Groups
