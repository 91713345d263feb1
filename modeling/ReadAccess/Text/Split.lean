/-
  Lists cut at a separator, and text cut into lines.
-/
set_option autoImplicit false

namespace ReadAccess.Text

/-- The stretches between the separators of a list; there is one more of them
than there are separators. -/
def splitOn {α : Type} [DecidableEq α] (sep : α) : List α → List (List α)
  | [] => [[]]
  | a :: rest =>
      if a = sep then [] :: splitOn sep rest
      else
        match splitOn sep rest with
        | [] => [[a]]
        | first :: more => (a :: first) :: more

theorem splitOn_ne_nil {α : Type} [DecidableEq α] (sep : α) (xs : List α) :
    splitOn sep xs ≠ [] := by
  cases xs with
  | nil => simp [splitOn]
  | cons a rest =>
      simp only [splitOn]
      split
      · simp
      · split <;> simp

theorem splitOn_append_sep {α : Type} [DecidableEq α] (sep : α) (xs ys : List α) :
    splitOn sep (xs ++ sep :: ys) = splitOn sep xs ++ splitOn sep ys := by
  induction xs with
  | nil => simp [splitOn]
  | cons a rest ih =>
      simp only [List.cons_append, splitOn, ih]
      split
      · rfl
      · cases h : splitOn sep rest with
        | nil => exact absurd h (splitOn_ne_nil sep rest)
        | cons first more => rfl

/-- The stretches between separators are those of the library. -/
theorem splitOn_eq {α : Type} [DecidableEq α] (sep : α) (xs : List α) :
    splitOn sep xs = xs.splitOn sep := by
  induction xs with
  | nil => rfl
  | cons a rest ih =>
      rw [splitOn, ih, List.splitOn_cons_eq_if_modifyHead]
      by_cases ha : a = sep
      · simp [ha]
      · cases hrest : rest.splitOn sep with
        | nil => exact absurd (ih.trans hrest) (splitOn_ne_nil sep rest)
        | cons first more => simp [ha]

theorem splitOn_eq_singleton {α : Type} [DecidableEq α] {sep : α} {xs : List α}
    (h : sep ∉ xs) : splitOn sep xs = [xs] := by
  induction xs with
  | nil => rfl
  | cons a rest ih =>
      rw [List.mem_cons, not_or] at h
      simp [splitOn, Ne.symm h.1, ih h.2]

/-! ## Lines -/

def withoutReturn (line : List Char) : List Char :=
  if line.getLast? = some '\r' then line.dropLast else line

/-- The lines that stretches between line feeds make.  The last stretch is not
ended by a line feed: it counts as it is, and only if it is not empty. -/
def linesOfStretches : List (List Char) → List (List Char)
  | [] => []
  | [last] => if last.isEmpty then [] else [last]
  | line :: more => withoutReturn line :: linesOfStretches more

/-- The lines of a text.  A line ends with a line feed, and with a carriage
return right before that. -/
def lines (cs : List Char) : List (List Char) := linesOfStretches (splitOn '\n' cs)

end ReadAccess.Text
