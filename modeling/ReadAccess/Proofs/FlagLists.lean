/-
  Lists of debug flags.

  The tokens of a list count one after the other, up to the first one that is no flag
  (`Verbosity.applyTokens_inOrder`).  Lists joined by commas have the tokens of the one and then
  those of the other, so it makes no difference whether lists are given one by one or joined
  (`Verbosity.applyFlags_append`, `Verbosity.applyFlagLists_join`).
-/
import Mathlib.Data.List.DropRight
import ReadAccess.Proofs.FlagGrammar

set_option autoImplicit false

namespace ReadAccess

/-! ## Pieces and what is left of them -/

namespace Text

/-- No stretch between separators has a separator in it. -/
theorem sep_notMem_of_mem_splitOn {α : Type} [DecidableEq α] {sep : α} {xs : List α} :
    ∀ stretch ∈ splitOn sep xs, sep ∉ stretch := by
  induction xs with
  | nil => simp [splitOn]
  | cons a rest ih =>
      rw [splitOn]
      split
      · exact List.forall_mem_cons.mpr ⟨List.not_mem_nil, ih⟩
      · next ha =>
        cases hrest : splitOn sep rest with
        | nil => simpa using Ne.symm ha
        | cons first more =>
            rw [hrest] at ih
            obtain ⟨hfirst, hmore⟩ := List.forall_mem_cons.mp ih
            refine List.forall_mem_cons.mpr ⟨?_, hmore⟩
            simp [Ne.symm ha, hfirst]

/-- What a text has between the blanks at its ends. -/
structure Trims (cs inner : List Char) : Prop where
  blanks : ∃ front back, cs = front ++ inner ++ back ∧
    (∀ c ∈ front, isBlank c = true) ∧ ∀ c ∈ back, isBlank c = true
  first : ∀ c ∈ inner.head?, isBlank c = false
  last : ∀ c ∈ inner.getLast?, isBlank c = false

theorem trims_trim (cs : List Char) : Trims cs (trim cs) := by
  have htrim : trim cs = (cs.dropWhile isBlank).rdropWhile isBlank := rfl
  rw [htrim]
  generalize hinner : cs.dropWhile isBlank = inner
  refine ⟨⟨cs.takeWhile isBlank, inner.rtakeWhile isBlank, ?_, ?_, ?_⟩, ?_, ?_⟩
  · rw [List.append_assoc, List.rdropWhile_append_rtakeWhile, ← hinner,
      List.takeWhile_append_dropWhile]
  · exact fun c hc => List.mem_takeWhile_imp hc
  · exact fun c hc => List.mem_rtakeWhile_imp hc
  · -- What is dropped at the back does not change what comes first.
    intro c hc
    obtain ⟨behind, hbehind⟩ := List.rdropWhile_prefix isBlank inner
    have hfirst : inner.head? = some c := by
      rw [← hbehind, List.head?_append, hc]
      rfl
    have hhead := List.head?_dropWhile_not isBlank cs
    rw [hinner, hfirst] at hhead
    exact hhead
  · intro c hc
    have hsome : inner.rdropWhile isBlank ≠ [] := by
      intro hnil
      rw [hnil] at hc
      cases hc
    have hlast := List.rdropWhile_last_not isBlank inner hsome
    rw [List.getLast?_eq_some_getLast hsome, Option.mem_some_iff] at hc
    rw [hc] at hlast
    exact Bool.eq_false_iff.mpr hlast

end Text

namespace Verbosity

/-! ## The tokens of a list -/

/-- Tokens are what a list has between its commas, without the blanks at either end, as far
as anything is left. -/
def IsListed (list : String) (tokens : List (List Char)) : Prop :=
  ∃ pieces inner, list.toList = [','].intercalate pieces ∧ (∀ piece ∈ pieces, ',' ∉ piece) ∧
    List.Forall₂ Text.Trims pieces inner ∧ tokens = inner.filter fun token => !token.isEmpty

theorem tokensOf_isListed (list : String) : IsListed list (tokensOf list) := by
  refine ⟨Text.splitOn ',' list.toList, (Text.splitOn ',' list.toList).map Text.trim, ?_,
    Text.sep_notMem_of_mem_splitOn, ?_, rfl⟩
  · rw [Text.splitOn_eq, List.intercalate_splitOn]
  · rw [List.forall₂_map_right_iff, List.forall₂_same]
    exact fun piece _ => Text.trims_trim piece

/-- Lists joined by a comma have the tokens of the one and then those of the other. -/
theorem tokensOf_append (list other : String) :
    tokensOf (list ++ "," ++ other) = tokensOf list ++ tokensOf other := by
  have hjoined : (list ++ "," ++ other).toList = list.toList ++ ',' :: other.toList := by
    simp
  rw [tokensOf, hjoined, Text.splitOn_append_sep, List.map_append, List.filter_append]
  rfl

/-- Several lists have the tokens of the one that they make. -/
theorem tokensOf_join (lists : List String) :
    tokensOf (String.intercalate "," lists) = tokensOfAll lists := by
  induction lists with
  | nil => rfl
  | cons list rest ih =>
      cases rest with
      | nil => simp [tokensOfAll]
      | cons next more =>
          rw [String.intercalate_cons_cons, tokensOf_append, ih]
          rfl

/-! ## Tokens that count -/

/-- What tokens come to that count one after the other: the verbosity behind them if all of
them write flags, and else the verbosity in front of the first one that does not, with the
fault of this one. -/
inductive InOrder (v : Verbosity) : List (List Char) → Verbosity × Option FlagFault → Prop where
  | done {tokens : List (List Char)} {flags : List DebugFlag} {w : Verbosity}
      (hflags : List.Forall₂ DebugFlag.Writes tokens flags)
      (hlevels : ∀ s, w.levels.get s = DebugFlag.levelAfter (v.levels.get s) flags s)
      (hquiet : w.quiet = v.quiet) : InOrder v tokens (w, none)
  | stopped {before rest : List (List Char)} {token : List Char} {fault : FlagFault}
      {w : Verbosity} (hbefore : InOrder v before (w, none))
      (hfault : DebugFlag.Faulty token fault) :
      InOrder v (before ++ token :: rest) (w, some fault)

variable {v w : Verbosity} {fault : FlagFault}

theorem inOrder_of_eq_none {tokens : List (List Char)} (h : v.applyTokens tokens = (w, none)) :
    InOrder v tokens (w, none) := by
  obtain ⟨flags, hflags, rfl⟩ := applyTokens_eq_none_iff.mp h
  refine .done ?_ (get_levels_withFlags v flags) (quiet_withFlags v flags)
  simpa only [mapM_eq_ok_iff, DebugFlag.ofToken_eq_ok_iff] using hflags

/-- A fault is that of the first token that is no flag. -/
theorem exists_of_applyTokens_eq_some {tokens : List (List Char)}
    (h : v.applyTokens tokens = (w, some fault)) :
    ∃ before token rest, tokens = before ++ token :: rest ∧
      v.applyTokens before = (w, none) ∧ DebugFlag.ofToken token = .error fault := by
  induction tokens generalizing v with
  | nil => cases h
  | cons token rest ih =>
      rw [applyTokens] at h
      cases htoken : DebugFlag.ofToken token with
      | error first =>
          rw [htoken] at h
          obtain ⟨rfl, hfirst⟩ := Prod.mk.inj h
          obtain rfl := Option.some.inj hfirst
          exact ⟨[], token, rest, rfl, rfl, htoken⟩
      | ok flag =>
          rw [htoken] at h
          obtain ⟨before, next, behind, rfl, hbefore, hfault⟩ := ih h
          refine ⟨token :: before, next, behind, rfl, ?_, hfault⟩
          rw [applyTokens, htoken]
          exact hbefore

/-- **Tokens count one after the other**, up to the first one that is no flag. -/
theorem applyTokens_inOrder (v : Verbosity) (tokens : List (List Char)) :
    InOrder v tokens (v.applyTokens tokens) := by
  rcases h : v.applyTokens tokens with ⟨w, _ | fault⟩
  · exact inOrder_of_eq_none h
  · obtain ⟨before, token, rest, rfl, hbefore, hfault⟩ := exists_of_applyTokens_eq_some h
    exact .stopped (inOrder_of_eq_none hbefore) (DebugFlag.ofToken_eq_error_iff.mp hfault)

/-! ## Lists one after the other -/

/-- A list joined to another one counts behind it, unless that one has a fault. -/
theorem applyFlags_append (v : Verbosity) (list other : String) :
    v.applyFlags (list ++ "," ++ other) =
      match v.applyFlags list with
      | (next, none) => next.applyFlags other
      | (next, some fault) => (next, some fault) := by
  rw [applyFlags, tokensOf_append, applyTokens_append]
  rfl

/-- Lists one after the other come to what the one list comes to that they make. -/
theorem applyFlagLists_join (v : Verbosity) (lists : List String) :
    v.applyFlagLists [String.intercalate "," lists] = v.applyFlagLists lists := by
  have hsame : tokensOfAll [String.intercalate "," lists] = tokensOfAll lists := by
    rw [tokensOfAll, List.flatMap_singleton, tokensOf_join]
  rw [applyFlagLists_eq, applyFlagLists_eq, hsame]

end Verbosity

end ReadAccess
