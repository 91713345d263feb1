/-
  Levels that debug flags set.

  Lists of tokens are accepted if each token is a flag, and then the flags count in order.
  Each subsystem ends up with the level of the last flag about it, and with its old level if
  there is none (`Verbosity.get_levels_withFlags`).
-/
import ReadAccess.Verbosity.DebugFlags
import ReadAccess.Proofs.Results

set_option autoImplicit false

namespace ReadAccess

/-! ## One flag -/

namespace DebugFlag

/-- Whether a flag is about a subsystem: it names this one, or all of them. -/
def isAbout (f : DebugFlag) (s : Subsystem) : Bool := f.scope == .all || f.scope == .one s

/-- A flag sets the levels of the subsystems that it is about, and no other. -/
theorem get_applyTo (f : DebugFlag) (l : Levels) (s : Subsystem) :
    (f.applyTo l).get s = if f.isAbout s then f.level else l.get s := by
  obtain ⟨scope, level⟩ := f
  cases scope with
  | all => simp [applyTo, isAbout]
  | one t =>
      rw [applyTo, Levels.get_set]
      cases s <;> cases t <;> rfl

/-! ## The last one -/

/-- The last flag about a subsystem. -/
def lastAbout? (flags : List DebugFlag) (s : Subsystem) : Option DebugFlag :=
  (flags.filter fun f => f.isAbout s).getLast?

/-- In front of other flags a flag counts only if none of those is about the subsystem. -/
theorem lastAbout?_cons (f : DebugFlag) (rest : List DebugFlag) (s : Subsystem) :
    lastAbout? (f :: rest) s = if f.isAbout s then some ((lastAbout? rest s).getD f)
      else lastAbout? rest s := by
  unfold lastAbout?
  rw [List.filter_cons]
  split
  · exact List.getLast?_cons
  · rfl

/-- The level of a subsystem that had another one before the flags. -/
def levelAfter (before : UInt8) (flags : List DebugFlag) (s : Subsystem) : UInt8 :=
  match lastAbout? flags s with
  | some f => f.level
  | none => before

theorem levelAfter_cons (before : UInt8) (f : DebugFlag) (rest : List DebugFlag) (s : Subsystem) :
    levelAfter before (f :: rest) s =
      levelAfter (if f.isAbout s then f.level else before) rest s := by
  unfold levelAfter
  rw [lastAbout?_cons]
  cases lastAbout? rest s <;> cases f.isAbout s <;> rfl

end DebugFlag

/-! ## Levels of a count -/

namespace Verbosity

@[simp] theorem quiet_ofCount (count : UInt8) : (ofCount count).quiet = false := by
  unfold ofCount
  split
  · rfl
  · split
    · rfl
    · split <;> rfl

/-- Without flags a count raises nothing, then decisions, and then every subsystem. -/
theorem zero_lt_level_ofCount {n : UInt8} {count : Nat} (h : n.toNat = min 255 count)
    (s : Subsystem) :
    decide (0 < (ofCount n).levels.get s) =
      (decide (2 ≤ count) || (count == 1 && s == .decision)) := by
  match count with
  | 0 =>
      obtain rfl : n = 0 := UInt8.toNat_inj.mp h
      cases s <;> rfl
  | 1 =>
      obtain rfl : n = 1 := UInt8.toNat_inj.mp h
      cases s <;> rfl
  | k + 2 =>
      have hzero : n ≠ 0 := by
        rintro rfl
        rw [UInt8.toNat_zero] at h
        omega
      have hone : n ≠ 1 := by
        rintro rfl
        rw [UInt8.toNat_one] at h
        omega
      rw [ofCount, if_neg hzero, if_neg hone]
      split <;> simp

/-! ## Several flags -/

/-- The verbosity after several flags. -/
def withFlags (v : Verbosity) (flags : List DebugFlag) : Verbosity := flags.foldl withFlag v

/-- Flags do not change whether only errors are shown. -/
@[simp] theorem quiet_withFlags (v : Verbosity) (flags : List DebugFlag) :
    (v.withFlags flags).quiet = v.quiet := by
  induction flags generalizing v with
  | nil => rfl
  | cons f rest ih => exact ih (v.withFlag f)

/-- **The last flag about a subsystem sets its level.**  Without one the level stays. -/
theorem get_levels_withFlags (v : Verbosity) (flags : List DebugFlag) (s : Subsystem) :
    (v.withFlags flags).levels.get s = DebugFlag.levelAfter (v.levels.get s) flags s := by
  induction flags generalizing v with
  | nil => rfl
  | cons f rest ih =>
      rw [DebugFlag.levelAfter_cons, ← DebugFlag.get_applyTo]
      exact ih (v.withFlag f)

/-! ## Tokens and lists of tokens -/

variable {v w : Verbosity}

/-- Tokens without a fault are flags, which count in order. -/
theorem applyTokens_eq_none_iff {tokens : List (List Char)} :
    v.applyTokens tokens = (w, none) ↔
      ∃ flags, tokens.mapM DebugFlag.ofToken = .ok flags ∧ v.withFlags flags = w := by
  induction tokens generalizing v with
  | nil => simp [applyTokens, withFlags, pure, Except.pure]
  | cons token rest ih =>
      rw [applyTokens, List.mapM_cons]
      cases DebugFlag.ofToken token with
      | error fault => simp [bind, Except.bind]
      | ok flag =>
          have hrest := ih (v := v.withFlag flag)
          cases hflags : rest.mapM DebugFlag.ofToken with
          | error fault => simpa [hflags, bind, Except.bind] using hrest
          | ok flags => simpa [hflags, bind, Except.bind, pure, Except.pure, withFlags] using hrest

/-- Tokens behind others come into play if those are all flags. -/
theorem applyTokens_append (v : Verbosity) (xs ys : List (List Char)) :
    v.applyTokens (xs ++ ys) =
      match v.applyTokens xs with
      | (next, none) => next.applyTokens ys
      | (next, some fault) => (next, some fault) := by
  induction xs generalizing v with
  | nil => rfl
  | cons token rest ih =>
      rw [List.cons_append, applyTokens, applyTokens]
      cases DebugFlag.ofToken token with
      | error fault => rfl
      | ok flag => exact ih (v.withFlag flag)

/-- The tokens of several lists, in order. -/
def tokensOfAll (lists : List String) : List (List Char) := lists.flatMap tokensOf

/-- Several lists are one list of tokens. -/
theorem applyFlagLists_eq (v : Verbosity) (lists : List String) :
    v.applyFlagLists lists =
      match v.applyTokens (tokensOfAll lists) with
      | (last, none) => .ok last
      | (_, some fault) => .error fault := by
  induction lists generalizing v with
  | nil => rfl
  | cons list rest ih =>
      have htokens : tokensOfAll (list :: rest) = tokensOf list ++ tokensOfAll rest := rfl
      rw [htokens, applyTokens_append, applyFlagLists, applyFlags]
      rcases v.applyTokens (tokensOf list) with ⟨next, _ | fault⟩
      · exact ih next
      · rfl

/-- Lists are accepted if all their tokens are flags, which count in order. -/
theorem applyFlagLists_eq_ok_iff {lists : List String} :
    v.applyFlagLists lists = .ok w ↔
      ∃ flags, (tokensOfAll lists).mapM DebugFlag.ofToken = .ok flags ∧ v.withFlags flags = w := by
  rw [← applyTokens_eq_none_iff, applyFlagLists_eq]
  rcases v.applyTokens (tokensOfAll lists) with ⟨next, _ | fault⟩ <;> simp

end Verbosity

end ReadAccess
