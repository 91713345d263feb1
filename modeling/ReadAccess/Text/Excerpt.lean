/-
  Text cut out of a text between two places that are counted in bytes.

  What stands between two pieces of a text is cut out of it whole:
  `excerpt_append`.  A place within a character is no place to cut at.
-/
import ReadAccess.Text.Numeral
import ReadAccess.Text.Quoted

set_option autoImplicit false

namespace ReadAccess.Text

def byteCount : List Char → Nat
  | [] => 0
  | c :: rest => c.utf8Size + byteCount rest

/-! ## Places within characters -/

/-- A place within a character at which a text was to be cut. -/
structure SplitCharacter where
  /-- Whether the piece was to end there, and not to start. -/
  ends : Bool
  place : Nat
  character : Char
  start : Nat
  deriving DecidableEq, Repr

def SplitCharacter.message (s : SplitCharacter) : String :=
  (if s.ends then "end" else "start") ++ " byte index " ++ decimal s.place ++
    " is not a char boundary; it is inside " ++ quotedChar s.character ++ " (bytes " ++
    decimal s.start ++ ".." ++ decimal (s.start + s.character.utf8Size) ++ " of string)"

/-- The character of a text that starts at `here` within which a place lies, and
the place where that character starts, if there is one. -/
def splitAt? (place : Nat) : Nat → List Char → Option (Char × Nat)
  | _, [] => none
  | here, c :: rest =>
      if here < place ∧ place < here + c.utf8Size then some (c, here)
      else splitAt? place (here + c.utf8Size) rest

/-! ## Excerpts -/

/-- The characters of a text that starts at `here` that start between two
places. -/
def between (start stop : Nat) : Nat → List Char → List Char
  | _, [] => []
  | here, c :: rest =>
      if start ≤ here ∧ here < stop then c :: between start stop (here + c.utf8Size) rest
      else between start stop (here + c.utf8Size) rest

/-- The piece of a text between two places, unless one of them is within a
character. -/
def excerpt (cs : List Char) (start stop : Nat) : Except SplitCharacter (List Char) :=
  match splitAt? start 0 cs, splitAt? stop 0 cs with
  | some (c, here), _ => .error ⟨false, start, c, here⟩
  | none, some (c, here) => .error ⟨true, stop, c, here⟩
  | none, none => .ok (between start stop 0 cs)

/-! ## Pieces are cut out whole -/

@[simp] theorem byteCount_append (xs ys : List Char) :
    byteCount (xs ++ ys) = byteCount xs + byteCount ys := by
  induction xs with
  | nil => simp [byteCount]
  | cons c rest ih => simp [byteCount, ih, Nat.add_assoc]

theorem splitAt?_of_le {place here : Nat} (h : place ≤ here) (cs : List Char) :
    splitAt? place here cs = none := by
  induction cs generalizing here with
  | nil => rfl
  | cons c rest ih =>
      rw [splitAt?, if_neg (by omega)]
      exact ih (by omega)

/-- No character lies around the place between two pieces. -/
theorem splitAt?_append (here : Nat) (xs ys : List Char) :
    splitAt? (here + byteCount xs) here (xs ++ ys) = none := by
  induction xs generalizing here with
  | nil => exact splitAt?_of_le (Nat.le_refl _) _
  | cons c rest ih =>
      simp only [byteCount, List.cons_append, splitAt?]
      rw [if_neg (by omega), ← Nat.add_assoc]
      exact ih _

theorem between_of_le {stop here : Nat} (start : Nat) (h : stop ≤ here) (cs : List Char) :
    between start stop here cs = [] := by
  induction cs generalizing here with
  | nil => rfl
  | cons c rest ih =>
      rw [between, if_neg (by omega)]
      exact ih (by omega)

/-- What stands in front of the first place does not count. -/
theorem between_append (stop here : Nat) (xs ys : List Char) :
    between (here + byteCount xs) stop here (xs ++ ys) =
      between (here + byteCount xs) stop (here + byteCount xs) ys := by
  induction xs generalizing here with
  | nil => rfl
  | cons c rest ih =>
      have hpos := c.utf8Size_pos
      simp only [byteCount, List.cons_append, between]
      rw [if_neg (by omega), ← Nat.add_assoc]
      exact ih _

theorem between_prefix {start here : Nat} (h : start ≤ here) (ys zs : List Char) :
    between start (here + byteCount ys) here (ys ++ zs) = ys := by
  induction ys generalizing here with
  | nil => exact between_of_le _ (Nat.le_refl _) _
  | cons c rest ih =>
      have hpos := c.utf8Size_pos
      simp only [byteCount, List.cons_append, between]
      rw [if_pos (by omega), ← Nat.add_assoc]
      exact congrArg (c :: ·) (ih (by omega))

/-- What stands between two pieces of a text is cut out of it whole. -/
theorem excerpt_append (xs ys zs : List Char) :
    excerpt (xs ++ ys ++ zs) (byteCount xs) (byteCount (xs ++ ys)) = .ok ys := by
  have hstart : splitAt? (byteCount xs) 0 (xs ++ ys ++ zs) = none := by
    have h := splitAt?_append 0 xs (ys ++ zs)
    rwa [Nat.zero_add, ← List.append_assoc] at h
  have hstop : splitAt? (byteCount (xs ++ ys)) 0 (xs ++ ys ++ zs) = none := by
    have h := splitAt?_append 0 (xs ++ ys) zs
    rwa [Nat.zero_add] at h
  have hmiddle : between (byteCount xs) (byteCount (xs ++ ys)) 0 (xs ++ ys ++ zs) = ys := by
    have h := between_append (byteCount (xs ++ ys)) 0 xs (ys ++ zs)
    rw [Nat.zero_add, ← List.append_assoc] at h
    rw [h, byteCount_append]
    exact between_prefix (Nat.le_refl _) ys zs
  simp only [excerpt, hstart, hstop, hmiddle]

end ReadAccess.Text
