/-
  What an entry of an access control list grants: read, write, execute.
-/
set_option autoImplicit false

namespace ReadAccess

/-- Granted permissions.  The three low bits are read, write and execute; an
entry may carry higher bits, which grant nothing. -/
structure Permission where
  bits : UInt16
  deriving DecidableEq, Repr, Inhabited

namespace Permission

def read : Permission := ⟨4⟩

def write : Permission := ⟨2⟩

def execute : Permission := ⟨1⟩

def nothing : Permission := ⟨0⟩

/-- The permissions in the lowest octal digit of a file mode. -/
def ofTriplet (mode : UInt32) : Permission := ⟨(mode &&& 7).toUInt16⟩

def union (p q : Permission) : Permission := ⟨p.bits ||| q.bits⟩

instance : OrOp Permission := ⟨union⟩

def contains (p q : Permission) : Bool := p.bits &&& q.bits == q.bits

def canRead (p : Permission) : Bool := p.contains read

/-- The permission without the bits that grant nothing. -/
def cut (p : Permission) : Permission := ⟨p.bits &&& 7⟩

/-- The letters of the granted permissions, and a dash for each other one. -/
def text (p : Permission) : String :=
  String.ofList [
    if p.contains read then 'r' else '-',
    if p.contains write then 'w' else '-',
    if p.contains execute then 'x' else '-']

/-! ## Single bits -/

/-- The permissions of a single bit that grants something. -/
def places : List Permission := [read, write, execute]

/-- A word holds a bit exactly if nothing but the bit is left of the word cut to
it. -/
theorem and_twoPow_eq_iff {w i : Nat} {x : BitVec w} (hi : i < w) :
    x &&& BitVec.twoPow w i = BitVec.twoPow w i ↔ x.getLsbD i = true := by
  have hbit : (BitVec.twoPow w i).getLsbD i = true := by simp [hi]
  constructor
  · intro h
    rw [← h, BitVec.getLsbD_and, Bool.and_eq_true] at hbit
    exact hbit.1
  · intro h
    rw [BitVec.and_twoPow, if_pos h]

theorem contains_eq_getLsbD {place : Permission} {i : Nat} (hi : i < 16)
    (hplace : place.bits.toBitVec = BitVec.twoPow 16 i) (p : Permission) :
    p.contains place = p.bits.toBitVec.getLsbD i := by
  rw [Bool.eq_iff_iff, contains, beq_iff_eq, ← UInt16.toBitVec_inj, UInt16.toBitVec_and, hplace]
  exact and_twoPow_eq_iff hi

theorem canRead_eq_getLsbD (p : Permission) : p.canRead = p.bits.toBitVec.getLsbD 2 :=
  contains_eq_getLsbD (by decide) rfl p

theorem exists_bit_of_mem_places {place : Permission} (hplace : place ∈ places) :
    ∃ i < 3, ∀ p : Permission, p.contains place = p.bits.toBitVec.getLsbD i := by
  simp only [places, List.mem_cons, List.not_mem_nil, or_false] at hplace
  rcases hplace with rfl | rfl | rfl
  · exact ⟨2, by decide, contains_eq_getLsbD (by decide) rfl⟩
  · exact ⟨1, by decide, contains_eq_getLsbD (by decide) rfl⟩
  · exact ⟨0, by decide, contains_eq_getLsbD (by decide) rfl⟩

/-- A bit is granted by a union exactly if it is granted by a part. -/
theorem contains_union {place : Permission} (hplace : place ∈ places) (p q : Permission) :
    (p ||| q).contains place = (p.contains place || q.contains place) := by
  obtain ⟨i, -, hbit⟩ := exists_bit_of_mem_places hplace
  rw [hbit, hbit, hbit]
  exact BitVec.getLsbD_or

/-- The bits that are cut off grant nothing. -/
theorem contains_cut {place : Permission} (hplace : place ∈ places) (p : Permission) :
    p.cut.contains place = p.contains place := by
  obtain ⟨i, hi, hbit⟩ := exists_bit_of_mem_places hplace
  have hseven : (7 : BitVec 16).getLsbD i = true := by
    match i, hi with
    | 0, _ | 1, _ | 2, _ => rfl
  rw [hbit, hbit]
  show (p.bits.toBitVec &&& 7).getLsbD i = _
  rw [BitVec.getLsbD_and, hseven, Bool.and_true]

theorem canRead_cut (p : Permission) : p.cut.canRead = p.canRead :=
  contains_cut List.mem_cons_self p

/-! ## Cuts -/

theorem cut_cut (p : Permission) : p.cut.cut = p.cut := by
  refine congrArg mk ?_
  show p.bits &&& 7 &&& 7 = p.bits &&& 7
  rw [UInt16.and_assoc]
  rfl

theorem cut_union (p q : Permission) : (p ||| q).cut = p.cut ||| q.cut := by
  refine congrArg mk (UInt16.toBitVec_inj.mp (BitVec.eq_of_getLsbD_eq fun i _ => ?_))
  show ((p.bits.toBitVec ||| q.bits.toBitVec) &&& 7).getLsbD i =
    (p.bits.toBitVec &&& 7 ||| q.bits.toBitVec &&& 7).getLsbD i
  simp only [BitVec.getLsbD_and, BitVec.getLsbD_or, Bool.and_or_distrib_right]

end Permission

end ReadAccess
