/-
  The grammar of debug flags.

  A token is a flag if it is the name of a subsystem, or of all of them, and behind the name
  there are digits that write a level, or nothing.  Every token that is no flag has exactly
  one fault, which depends on what stands in front of its first digit and on what follows
  from there on.  The reader accepts the flags and finds the faults, and no others
  (`DebugFlag.ofToken_eq_ok_iff`, `DebugFlag.ofToken_eq_error_iff`).
-/
import Mathlib.Data.List.TakeWhile
import ReadAccess.Proofs.FlagLevels

set_option autoImplicit false

namespace ReadAccess

/-! ## Names -/

/-- The name of a scope. -/
def FlagScope.name : FlagScope → String
  | .all => "all"
  | .one s => s.name

/-- No name has a digit in it. -/
theorem FlagScope.isDigit_name (scope : FlagScope) :
    ∀ c ∈ scope.name.toList, c.isDigit = false := by
  cases scope with
  | all => simp [name]
  | one s => cases s <;> simp [name, Subsystem.name]

theorem FlagScope.name_ne_nil (scope : FlagScope) : scope.name.toList ≠ [] := by
  cases scope with
  | all => decide
  | one s => cases s <;> decide

namespace DebugFlag

/-- A name finds the scope whose name it is. -/
theorem scopeOf?_eq_some_iff {n : String} {scope : FlagScope} :
    scopeOf? n = some scope ↔ n = scope.name := by
  unfold scopeOf?
  split
  · next hall =>
    subst hall
    cases scope with
    | all => simp [FlagScope.name]
    | one s => cases s <;> simp [FlagScope.name, Subsystem.name]
  · next hall =>
    cases scope with
    | all => simp [FlagScope.name, hall]
    | one s => simp [FlagScope.name, Subsystem.ofName?_eq_some_iff]

theorem scopeOf?_eq_none_iff {n : String} :
    scopeOf? n = none ↔ ∀ scope : FlagScope, n ≠ scope.name := by
  simp only [Option.eq_none_iff_forall_ne_some, ne_eq, scopeOf?_eq_some_iff]

/-! ## Levels -/

/-- Digits write their value, if it is a level.  Nothing writes the first level. -/
inductive WritesLevel : List Char → UInt8 → Prop where
  | nothing : WritesLevel [] 1
  | digits {ds : List Char} {level : UInt8} (hsome : ds ≠ []) (hdigits : ∀ c ∈ ds, c.isDigit = true)
      (hvalue : level.toNat = Nat.ofDigitChars 10 ds 0) : WritesLevel ds level

variable {token name rest ds : List Char} {level : UInt8} {f : DebugFlag} {fault : FlagFault}

/-- A level is read from what writes it. -/
theorem readLevel_eq_ok_iff : readLevel token ds = .ok level ↔ WritesLevel ds level := by
  cases ds with
  | nil =>
      constructor
      · intro h
        obtain rfl := Except.ok.inj h
        exact .nothing
      · rintro (_ | ⟨hsome, -, -⟩)
        · rfl
        · exact absurd rfl hsome
  | cons d more =>
      have hread : ∀ n, Text.readDigits greatestLevel 0 (d :: more) = .ok n ↔
          (∀ c ∈ d :: more, c.isDigit = true) ∧ n = Nat.ofDigitChars 10 (d :: more) 0 ∧
            n ≤ greatestLevel := fun n => Text.readDigits_eq_ok_iff (Nat.zero_le _)
      rw [readLevel, if_neg (by simp)]
      constructor
      · intro h
        split at h
        · next n hn =>
          obtain ⟨hdigits, hvalue, hle⟩ := (hread n).mp hn
          obtain rfl := Except.ok.inj h
          refine .digits (List.cons_ne_nil _ _) hdigits ?_
          rw [← hvalue]
          exact Nat.mod_eq_of_lt (Nat.lt_succ_of_le hle)
        · cases h
      · rintro (_ | ⟨-, hdigits, hvalue⟩)
        have hlevel := (hread level.toNat).mpr ⟨hdigits, hvalue, Nat.le_of_lt_succ level.toNat_lt⟩
        rw [hlevel]
        exact congrArg Except.ok (UInt8.ofNat_toNat (x := level))

/-- Anything else is a fault of the whole token. -/
theorem readLevel_of_forall_not (h : ∀ level, ¬ WritesLevel ds level) :
    readLevel token ds = .error (.invalidLevel (String.ofList token)) := by
  have hnot : ∀ level, readLevel token ds ≠ .ok level := fun level hread =>
    h level (readLevel_eq_ok_iff.mp hread)
  unfold readLevel at hnot ⊢
  split
  · next hnil =>
    rw [if_pos hnil] at hnot
    exact absurd rfl (hnot 1)
  · next hnil =>
    rw [if_neg hnil] at hnot
    split
    · next n hn =>
      rw [hn] at hnot
      exact absurd rfl (hnot (UInt8.ofNat n))
    · rfl

/-! ## Tokens -/

/-- A token is cut in front of its first digit, or behind its end if it has none. -/
structure CutsAtDigit (token name rest : List Char) : Prop where
  joined : token = name ++ rest
  before : ∀ c ∈ name, c.isDigit = false
  behind : ∀ c ∈ rest.head?, c.isDigit = true

theorem cutsAtDigit_nameOf (token : List Char) :
    CutsAtDigit token (nameOf token) (levelOf token) where
  joined := List.takeWhile_append_dropWhile.symm
  before := fun c hc => by simpa using List.mem_takeWhile_imp hc
  behind := by
    intro c hc
    have hhead := List.head?_dropWhile_not (fun c => !c.isDigit) token
    rw [Option.mem_def, levelOf] at hc
    rw [hc] at hhead
    simpa using hhead

/-- There is one such place. -/
theorem CutsAtDigit.unique (h : CutsAtDigit token name rest) :
    nameOf token = name ∧ levelOf token = rest := by
  obtain ⟨rfl, hbefore, hbehind⟩ := h
  have hname : ∀ c ∈ name, (!c.isDigit) = true := fun c hc => by simp [hbefore c hc]
  have hrest : rest.takeWhile (fun c => !c.isDigit) = [] ∧
      rest.dropWhile (fun c => !c.isDigit) = rest := by
    cases rest with
    | nil => exact ⟨rfl, rfl⟩
    | cons c more => simp [hbehind c rfl]
  rw [nameOf, levelOf, List.takeWhile_append_of_pos hname, List.dropWhile_append_of_pos hname,
    hrest.1, hrest.2, List.append_nil]
  exact ⟨rfl, rfl⟩

/-- A token writes a flag: the name of its scope, and behind it the level. -/
def Writes (token : List Char) (f : DebugFlag) : Prop :=
  ∃ digits, token = f.scope.name.toList ++ digits ∧ WritesLevel digits f.level

/-- The fault of a token. -/
inductive Faulty : List Char → FlagFault → Prop where
  | empty : Faulty [] .empty
  | missingName {c : Char} {rest : List Char} (hdigit : c.isDigit = true) :
      Faulty (c :: rest) (.missingName (String.ofList (c :: rest)))
  /-- Whatever the name is, what follows from the first digit on is no level. -/
  | invalidLevel {token name rest : List Char} (hcut : CutsAtDigit token name rest)
      (hname : name ≠ []) (hlevel : ∀ level, ¬ WritesLevel rest level) :
      Faulty token (.invalidLevel (String.ofList token))
  | unknown {token name rest : List Char} {level : UInt8} (hcut : CutsAtDigit token name rest)
      (hname : name ≠ []) (hlevel : WritesLevel rest level)
      (hunknown : ∀ scope : FlagScope, name ≠ scope.name.toList) :
      Faulty token (.unknown (String.ofList name))

/-- Every token writes a flag or has a fault. -/
theorem exists_writes_or_faulty (token : List Char) :
    (∃ f, Writes token f) ∨ ∃ fault, Faulty token fault := by
  have hcut := cutsAtDigit_nameOf token
  generalize nameOf token = name at hcut
  generalize levelOf token = rest at hcut
  cases name with
  | nil =>
      have htoken : token = rest := hcut.joined
      subst htoken
      cases token with
      | nil => exact .inr ⟨_, .empty⟩
      | cons c more => exact .inr ⟨_, .missingName (hcut.behind c rfl)⟩
  | cons c more =>
      have hname := List.cons_ne_nil c more
      by_cases hlevel : ∃ level, WritesLevel rest level
      · obtain ⟨level, hlevel⟩ := hlevel
        by_cases hscope : ∃ scope : FlagScope, c :: more = scope.name.toList
        · obtain ⟨scope, hscope⟩ := hscope
          exact .inl ⟨⟨scope, level⟩, rest, hscope ▸ hcut.joined, hlevel⟩
        · exact .inr ⟨_, .unknown hcut hname hlevel (not_exists.mp hscope)⟩
      · exact .inr ⟨_, .invalidLevel hcut hname (not_exists.mp hlevel)⟩

/-! ## The reader -/

/-- A digit can only begin a level. -/
theorem WritesLevel.behind (h : WritesLevel ds level) : ∀ c ∈ ds.head?, c.isDigit = true := by
  intro c hc
  obtain _ | ⟨-, hdigits, -⟩ := h
  · cases hc
  · exact hdigits c (List.mem_of_mem_head? hc)

/-- A token with a name is read from its two parts. -/
theorem ofToken_of_cutsAtDigit (hcut : CutsAtDigit token name rest) (hname : name ≠ []) :
    ofToken token =
      match readLevel token rest with
      | .error fault => .error fault
      | .ok level =>
          match scopeOf? (String.ofList name) with
          | none => .error (.unknown (String.ofList name))
          | some scope => .ok ⟨scope, level⟩ := by
  obtain ⟨hnameOf, hlevelOf⟩ := hcut.unique
  have htoken : token ≠ [] := by
    rw [hcut.joined]
    simp [hname]
  rw [ofToken, if_neg (by simpa using htoken), hnameOf, hlevelOf]
  exact if_neg (by simpa using hname)

theorem ofToken_of_writes (h : Writes token f) : ofToken token = .ok f := by
  obtain ⟨digits, htoken, hlevel⟩ := h
  have hcut : CutsAtDigit token f.scope.name.toList digits :=
    ⟨htoken, f.scope.isDigit_name, hlevel.behind⟩
  have hscope : scopeOf? (String.ofList f.scope.name.toList) = some f.scope :=
    scopeOf?_eq_some_iff.mpr String.ofList_toList
  rw [ofToken_of_cutsAtDigit hcut f.scope.name_ne_nil, readLevel_eq_ok_iff.mpr hlevel]
  simp only [hscope]

theorem ofToken_of_faulty (h : Faulty token fault) : ofToken token = .error fault := by
  cases h with
  | empty => rfl
  | @missingName c rest hdigit => simp [ofToken, nameOf, hdigit]
  | invalidLevel hcut hname hlevel =>
      rw [ofToken_of_cutsAtDigit hcut hname, readLevel_of_forall_not hlevel]
  | @unknown _ name rest level hcut hname hlevel hunknown =>
      have hscope : scopeOf? (String.ofList name) = none := by
        refine scopeOf?_eq_none_iff.mpr fun scope heq => hunknown scope ?_
        rw [← heq, String.toList_ofList]
      rw [ofToken_of_cutsAtDigit hcut hname, readLevel_eq_ok_iff.mpr hlevel]
      simp only [hscope]

/-- **The reader accepts the tokens that write a flag**, and reads this flag. -/
theorem ofToken_eq_ok_iff : ofToken token = .ok f ↔ Writes token f := by
  refine ⟨fun h => ?_, ofToken_of_writes⟩
  obtain ⟨g, hg⟩ | ⟨fault, hfault⟩ := exists_writes_or_faulty token
  · obtain rfl := Except.ok.inj ((ofToken_of_writes hg).symm.trans h)
    exact hg
  · cases (ofToken_of_faulty hfault).symm.trans h

/-- **It finds the fault of every other token.** -/
theorem ofToken_eq_error_iff : ofToken token = .error fault ↔ Faulty token fault := by
  refine ⟨fun h => ?_, ofToken_of_faulty⟩
  obtain ⟨g, hg⟩ | ⟨other, hother⟩ := exists_writes_or_faulty token
  · cases (ofToken_of_writes hg).symm.trans h
  · obtain rfl := Except.error.inj ((ofToken_of_faulty hother).symm.trans h)
    exact hother

end DebugFlag

/-! ## What a token changes -/

/-- Levels are the same if they are for every subsystem. -/
theorem Levels.eq_of_get_eq {l m : Levels} (h : ∀ s, l.get s = m.get s) : l = m := by
  obtain ⟨a, i, p, d⟩ := l
  obtain ⟨a', i', p', d'⟩ := m
  obtain rfl : a = a' := h .acl
  obtain rfl : i = i' := h .identity
  obtain rfl : p = p' := h .probe
  obtain rfl : d = d' := h .decision
  rfl

/-- From one verbosity to another a flag sets the level of the subsystem that it names, or of
all of them, and changes nothing else. -/
structure DebugFlag.Sets (f : DebugFlag) (v w : Verbosity) : Prop where
  levels : ∀ s, w.levels.get s =
    if f.scope = .all ∨ f.scope = .one s then f.level else v.levels.get s
  quiet : w.quiet = v.quiet

theorem DebugFlag.sets_iff {f : DebugFlag} {v w : Verbosity} :
    f.Sets v w ↔ v.withFlag f = w := by
  have hlevels : ∀ s, (v.withFlag f).levels.get s =
      if f.scope = .all ∨ f.scope = .one s then f.level else v.levels.get s := by
    intro s
    rw [Verbosity.withFlag, get_applyTo]
    simp [isAbout]
  constructor
  · rintro ⟨hsets, hquiet⟩
    obtain ⟨levels, quiet⟩ := w
    obtain rfl : v.quiet = quiet := hquiet.symm
    obtain rfl : (v.withFlag f).levels = levels :=
      Levels.eq_of_get_eq fun s => (hlevels s).trans (hsets s).symm
    rfl
  · rintro rfl
    exact ⟨hlevels, rfl⟩

namespace Verbosity

/-- **A token is accepted exactly if it writes a flag**, and then sets the levels of this flag
and nothing else.  Every other token has its one fault and changes nothing. -/
theorem applyToken_exactly (v : Verbosity) (token : String) :
    (∀ w, v.applyToken token = .ok w ↔
        ∃ f, DebugFlag.Writes token.toList f ∧ f.Sets v w) ∧
      (∀ fault, v.applyToken token = .error fault ↔ DebugFlag.Faulty token.toList fault) ∧
      (∀ w, v.applyToken token = .ok w ↔ v.applyTokens [token.toList] = (w, none)) ∧
      (∀ fault, v.applyToken token = .error fault ↔
        v.applyTokens [token.toList] = (v, some fault)) ∧
      FlagFault.message .empty = "empty flag token" ∧
      FlagFault.message (.missingName token) = "missing flag name in: " ++ token ∧
      FlagFault.message (.invalidLevel token) = "invalid level in flag: " ++ token ∧
      ∀ name, FlagFault.message (.unknown name) = "unknown debug flag: " ++ name := by
  refine ⟨fun w => ?_, fun fault => ?_, fun w => ?_, fun fault => ?_, rfl, rfl, rfl, fun _ => rfl⟩
  · simp only [applyToken, map_eq_ok_iff, DebugFlag.ofToken_eq_ok_iff, DebugFlag.sets_iff]
  · rw [← DebugFlag.ofToken_eq_error_iff, applyToken]
    cases DebugFlag.ofToken token.toList <;> simp [Except.map]
  · simp only [applyToken, applyTokens]
    cases DebugFlag.ofToken token.toList <;> simp [Except.map]
  · simp only [applyToken, applyTokens]
    cases DebugFlag.ofToken token.toList <;> simp [Except.map]

/-- Zeros may lead, and a level that is none is found before a name that is none. -/
example : DebugFlag.ofToken "acl0255".toList = .ok ⟨.one .acl, 255⟩ ∧
    DebugFlag.ofToken "list256".toList = .error (.invalidLevel "list256") := by decide

end Verbosity

end ReadAccess
