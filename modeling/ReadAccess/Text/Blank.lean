/-
  Blank characters: the Unicode property White_Space, and trimming by it.
-/
import ReadAccess.Text.CharacterClass

set_option autoImplicit false

namespace ReadAccess.Text

/-- The characters with the property White_Space. -/
def blankClass : CharacterClass :=
  ⟨[
    (0x9, 0xD), (0x20, 0x20), (0x85, 0x85), (0xA0, 0xA0), (0x1680, 0x1680), (0x2000, 0x200A),
    (0x2028, 0x2029), (0x202F, 0x202F), (0x205F, 0x205F), (0x3000, 0x3000)
  ]⟩

def isBlank (c : Char) : Bool := blankClass.contains c

def trimFront (cs : List Char) : List Char := cs.dropWhile isBlank

def trim (cs : List Char) : List Char := (trimFront (trimFront cs).reverse).reverse

theorem trimFront_eq_self {cs : List Char} (h : ∀ c ∈ cs, isBlank c = false) :
    trimFront cs = cs := by
  cases cs with
  | nil => rfl
  | cons c rest => exact List.dropWhile_cons_of_neg (by simp [h c List.mem_cons_self])

theorem trim_eq_self {cs : List Char} (h : ∀ c ∈ cs, isBlank c = false) : trim cs = cs := by
  rw [trim, trimFront_eq_self h, trimFront_eq_self (by simpa using h), List.reverse_reverse]

end ReadAccess.Text
