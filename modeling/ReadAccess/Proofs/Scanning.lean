/-
  What an argument does to a scan.

  An argument in front of two lone hyphens stands for moves, and which moves these are does
  not depend on the scan: a switch, a setting with or without its value, an operand, and
  several switches for a cluster of letters.  A scan that succeeds makes the moves of its
  arguments, one after the other, and settles (`Scan.run_eq_ok_iff`).
-/
import ReadAccess.CommandLine.Request
import ReadAccess.Proofs.Results

set_option autoImplicit false

namespace ReadAccess.CommandLine

open Text (RawText)

/-- What an argument can do to a scan. -/
inductive Move where
  | switch (switch : Switch)
  /-- A setting, with its value if the value is in the same argument. -/
  | setting (setting : Setting) (value : Option RawText)
  | operand (argument : RawText)

/-! ## The moves of an argument -/

/-- The switch of a long name. -/
def switchNamed? (name : RawText) : Option Switch :=
  Switch.all.find? fun switch => name == RawText.ofString switch.long

/-- The setting of a long name. -/
def settingNamed? (name : RawText) : Option Setting :=
  Setting.all.find? fun setting => name == RawText.ofString setting.long

/-- The move of a long option.  A switch takes no value. -/
def longMove? (name : RawText) (value : Option RawText) : Option Move :=
  match switchNamed? name with
  | some switch =>
      match value with
      | some _ => none
      | none => some (.switch switch)
  | none => (settingNamed? name).map fun setting => .setting setting value

/-- The move of a letter. -/
def letterMove? : RawText.Glyph → Option Move
  | .character c => (Switch.all.find? fun switch => switch.short == c).map Move.switch
  | .broken _ => none

/-- The moves of several letters, if each of them has one. -/
def letterMoves? : List RawText.Glyph → Option (List Move)
  | [] => some []
  | glyph :: rest => do return (← letterMove? glyph) :: (← letterMoves? rest)

/-- The moves of an argument.  There are none for one that is no option although it looks
like one. -/
def movesOf? (argument : RawText) : Option (List Move) :=
  match formOf argument with
  | .escape => some []
  | .long name value => (longMove? name value).map fun move => [move]
  | .short letters => letterMoves? letters.glyphs
  | .operand => some [.operand argument]

/-- The moves of the arguments in front of two lone hyphens. -/
def optionMoves? : List RawText → Option (List Move)
  | [] => some []
  | argument :: rest =>
      if formOf argument = .escape then some []
      else do return (← movesOf? argument) ++ (← optionMoves? rest)

/-- The arguments behind two lone hyphens. -/
def operandsBehind : List RawText → List RawText
  | [] => []
  | argument :: rest => if formOf argument = .escape then rest else operandsBehind rest

/-- Two lone hyphens have only one spelling. -/
theorem formOf_ne_escape {argument : RawText} (h : argument ≠ .ofString "--") :
    formOf argument ≠ .escape := by
  intro hform
  unfold formOf at hform
  split at hform
  · next hbytes =>
    exact h (congrArg RawText.mk hbytes)
  · cases hform
  · cases hform
  · cases hform

/-! ## What is found -/

namespace Found

variable {f g : Found}

/-- A switch counts once, but for the one that asks for more output. -/
theorem addSwitch_eq_ok_iff {switch : Switch} :
    f.addSwitch switch = .ok g ↔
      (switch = .help ∧ f.help = false ∧ { f with help := true } = g) ∨
        (switch = .version ∧ f.version = false ∧ { f with version := true } = g) ∨
        (switch = .quiet ∧ f.quiet = false ∧ { f with quiet := true } = g) ∨
        (switch = .verbose ∧
          { f with verbose := if f.verbose = 255 then 255 else f.verbose + 1 } = g) := by
  cases switch with
  | help => cases hf : f.help <;> simp [addSwitch, hf]
  | version => cases hf : f.version <;> simp [addSwitch, hf]
  | quiet => cases hf : f.quiet <;> simp [addSwitch, hf]
  | verbose => simp [addSwitch]

/-- Flags are texts and come one after the other; a size is a number and comes once. -/
theorem addSetting_eq_ok_iff {setting : Setting} {value : RawText} :
    f.addSetting setting value = .ok g ↔
      (setting = .debug ∧ ∃ text, value = .ofString text ∧
          { f with debug := f.debug ++ [text] } = g) ∨
        (setting = .initialGroups ∧ f.initial = none ∧ ∃ n, sizeOf .initialGroups value = .ok n ∧
          { f with initial := some n } = g) ∨
        (setting = .groupIncrement ∧ f.increment = none ∧
          ∃ n, sizeOf .groupIncrement value = .ok n ∧ { f with increment := some n } = g) := by
  cases setting with
  | debug =>
      rw [addSetting]
      simp only [← RawText.toString?_eq_some_iff]
      cases value.toString? <;> simp
  | initialGroups => cases hf : f.initial <;> simp [addSetting, hf, map_eq_ok_iff]
  | groupIncrement => cases hf : f.increment <;> simp [addSetting, hf, map_eq_ok_iff]

end Found

/-! ## Scans as moves -/

namespace Scan

/-- The scan after a move. -/
def move (s : Scan) : Move → Except UsageError Scan
  | .switch switch => s.onSwitch switch
  | .setting setting value => s.onSetting setting value
  | .operand argument => s.onOperand argument

/-- The scan after several moves. -/
def moveAll (s : Scan) : List Move → Except UsageError Scan
  | [] => .ok s
  | m :: rest =>
      match s.move m with
      | .error e => .error e
      | .ok next => next.moveAll rest

variable {s t : Scan}

theorem moveAll_cons_eq_ok_iff {m : Move} {rest : List Move} :
    s.moveAll (m :: rest) = .ok t ↔ ∃ next, s.move m = .ok next ∧ next.moveAll rest = .ok t := by
  rw [moveAll]
  cases s.move m <;> simp

theorem moveAll_singleton_eq_ok_iff {m : Move} : s.moveAll [m] = .ok t ↔ s.move m = .ok t := by
  rw [moveAll_cons_eq_ok_iff]
  simp [moveAll]

theorem moveAll_append_eq_ok_iff {first second : List Move} :
    s.moveAll (first ++ second) = .ok t ↔
      ∃ next, s.moveAll first = .ok next ∧ next.moveAll second = .ok t := by
  induction first generalizing s with
  | nil => simp [moveAll]
  | cons m rest ih =>
      simp only [List.cons_append, moveAll_cons_eq_ok_iff, ih]
      constructor
      · rintro ⟨a, ha, b, hb, ht⟩
        exact ⟨b, ⟨a, ha, hb⟩, ht⟩
      · rintro ⟨b, ⟨a, ha, hb⟩, ht⟩
        exact ⟨a, ha, b, hb, ht⟩

/-! ## What a move needs and does -/

/-- The setting whose value has to come next. -/
def awaits? (s : Scan) : Option Setting :=
  match s.pending with
  | some (setting, none) => some setting
  | _ => none

/-- A scan that awaits a value cannot settle. -/
theorem awaits?_eq_none_of_settle {f : Found} (h : s.settle = .ok f) : s.awaits? = none := by
  obtain ⟨found, pending⟩ := s
  match pending with
  | none => rfl
  | some (setting, none) => cases h
  | some (setting, some value) => rfl

theorem onSwitch_eq_ok_iff {switch : Switch} :
    s.onSwitch switch = .ok t ↔
      ∃ f g, s.settle = .ok f ∧ f.addSwitch switch = .ok g ∧ ⟨g, none⟩ = t := by
  simp [onSwitch, bind_eq_ok_iff, pure, Except.pure]

theorem onSetting_eq_ok_iff {setting : Setting} {value : Option RawText} :
    s.onSetting setting value = .ok t ↔
      ∃ f, s.settle = .ok f ∧
        ((value = none ∧ ⟨f, some (setting, none)⟩ = t) ∨
          ∃ v g, value = some v ∧ f.addSetting setting v = .ok g ∧ ⟨g, none⟩ = t) := by
  cases value <;> simp [onSetting, bind_eq_ok_iff, pure, Except.pure]

theorem onOperand_eq_ok_iff {argument : RawText} :
    s.onOperand argument = .ok t ↔
      (∃ setting, s.awaits? = some setting ∧ ⟨s.found, some (setting, some argument)⟩ = t) ∨
        ∃ f, s.settle = .ok f ∧ ⟨f.addOperands [argument], none⟩ = t := by
  obtain ⟨found, pending⟩ := s
  match pending with
  | none => simp [onOperand, settle, awaits?, map_eq_ok_iff]
  | some (setting, none) => simp [onOperand, settle, awaits?]
  | some (setting, some value) => simp [onOperand, settle, awaits?, map_eq_ok_iff]

/-! ## Arguments as moves -/

theorem onLong_eq_ok_iff {name : RawText} {value : Option RawText} :
    s.onLong name value = .ok t ↔ ∃ m, longMove? name value = some m ∧ s.move m = .ok t := by
  unfold onLong longMove? switchNamed? settingNamed?
  cases Switch.all.find? fun switch => name == RawText.ofString switch.long with
  | some switch => cases value <;> simp [move]
  | none =>
      cases Setting.all.find? fun setting => name == RawText.ofString setting.long <;>
        simp [move]

theorem onLetters_eq_ok_iff {glyphs : List RawText.Glyph} :
    s.onLetters glyphs = .ok t ↔
      ∃ moves, letterMoves? glyphs = some moves ∧ s.moveAll moves = .ok t := by
  induction glyphs generalizing s with
  | nil => simp [onLetters, letterMoves?, moveAll]
  | cons glyph rest ih =>
      cases glyph with
      | broken bytes => simp [onLetters, letterMoves?, letterMove?]
      | character c =>
          rw [onLetters, letterMoves?, letterMove?]
          cases Switch.all.find? fun switch => switch.short == c with
          | none => simp
          | some switch =>
              -- The moves of the other letters, if they have any, come behind the first one.
              have hmoves : (∃ moves, ((some (Move.switch switch)).bind fun m =>
                    (letterMoves? rest).bind fun ms => some (m :: ms)) = some moves ∧
                    s.moveAll moves = .ok t) ↔
                  ∃ next, s.onSwitch switch = .ok next ∧ next.onLetters rest = .ok t := by
                cases hrest : letterMoves? rest with
                | none => simp [ih, hrest]
                | some ms => simp [moveAll_cons_eq_ok_iff, move, ih, hrest]
              refine Iff.trans ?_ hmoves.symm
              dsimp only
              cases s.onSwitch switch <;> simp

/-- A scan that takes an argument makes its moves. -/
theorem step_eq_ok_iff {argument : RawText} :
    s.step argument = .ok t ↔
      ∃ moves, movesOf? argument = some moves ∧ s.moveAll moves = .ok t := by
  rw [step, movesOf?]
  cases formOf argument with
  | escape => simp [moveAll]
  | operand => simp [moveAll_singleton_eq_ok_iff, move]
  | short letters => exact onLetters_eq_ok_iff
  | long name value =>
      dsimp only
      rw [onLong_eq_ok_iff]
      cases longMove? name value <;> simp [moveAll_singleton_eq_ok_iff]

/-! ## Scans of several arguments -/

/-- Behind two lone hyphens there are operands only. -/
theorem run_escape_eq_ok_iff {argument : RawText} (hescape : formOf argument = .escape)
    {rest : List RawText} {f : Found} :
    s.run (argument :: rest) = .ok f ↔
      ∃ g, s.settle = .ok g ∧ g.addOperands rest = f := by
  rw [run, if_pos hescape, map_eq_ok_iff]

/-- In front of them the moves of the first argument come before the rest. -/
theorem run_cons_eq_ok_iff {argument : RawText} (hescape : formOf argument ≠ .escape)
    {rest : List RawText} {f : Found} :
    s.run (argument :: rest) = .ok f ↔
      ∃ moves next, movesOf? argument = some moves ∧ s.moveAll moves = .ok next ∧
        next.run rest = .ok f := by
  rw [run, if_neg hescape]
  cases hstep : s.step argument with
  | error e =>
      have hnone : ∀ moves next, movesOf? argument = some moves → s.moveAll moves ≠ .ok next := by
        intro moves next hmoves hnext
        rw [step_eq_ok_iff.mpr ⟨moves, hmoves, hnext⟩] at hstep
        cases hstep
      simp only [reduceCtorEq, false_iff]
      rintro ⟨moves, next, hmoves, hnext, -⟩
      exact hnone moves next hmoves hnext
  | ok next =>
      obtain ⟨moves, hmoves, hnext⟩ := step_eq_ok_iff.mp hstep
      dsimp only
      simp [hmoves, hnext]

/-- A scan that finds something makes the moves of an argument that are known. -/
theorem exists_of_run_cons {argument : RawText} {rest : List RawText} {moves : List Move}
    {f : Found} (hescape : formOf argument ≠ .escape) (hmoves : movesOf? argument = some moves)
    (h : s.run (argument :: rest) = .ok f) :
    ∃ t, s.moveAll moves = .ok t ∧ t.run rest = .ok f := by
  obtain ⟨moves', t, hmoves', ht, hrest⟩ := (run_cons_eq_ok_iff hescape).mp h
  obtain rfl := Option.some.inj (hmoves.symm.trans hmoves')
  exact ⟨t, ht, hrest⟩

/-- **A scan makes the moves of the arguments** in front of two lone hyphens, settles, and
takes the arguments behind them as operands. -/
theorem run_eq_ok_iff {arguments : List RawText} {f : Found} :
    s.run arguments = .ok f ↔
      ∃ moves t g, optionMoves? arguments = some moves ∧ s.moveAll moves = .ok t ∧
        t.settle = .ok g ∧ g.addOperands (operandsBehind arguments) = f := by
  induction arguments generalizing s with
  | nil => simp [run, optionMoves?, operandsBehind, moveAll, Found.addOperands]
  | cons argument rest ih =>
      by_cases hescape : formOf argument = .escape
      · rw [run_escape_eq_ok_iff hescape]
        simp [optionMoves?, operandsBehind, hescape, moveAll]
      · rw [run_cons_eq_ok_iff hescape]
        simp only [ih, optionMoves?, operandsBehind, if_neg hescape]
        constructor
        · rintro ⟨first, next, hfirst, hnext, second, t, g, hsecond, ht, hg, hf⟩
          refine ⟨first ++ second, t, g, ?_, moveAll_append_eq_ok_iff.mpr ⟨next, hnext, ht⟩, hg, hf⟩
          simp [hfirst, hsecond]
        · rintro ⟨moves, t, g, hmoves, ht, hg, hf⟩
          obtain ⟨first, hfirst, hmoves⟩ := Option.bind_eq_some_iff.mp hmoves
          obtain ⟨second, hsecond, hmoves⟩ := Option.bind_eq_some_iff.mp hmoves
          obtain rfl := Option.some.inj hmoves
          obtain ⟨next, hnext, ht⟩ := moveAll_append_eq_ok_iff.mp ht
          exact ⟨first, next, hfirst, hnext, second, t, g, hsecond, ht, hg, hf⟩

end Scan

/-! ## Requests -/

namespace Request

theorem checked_eq {r checked : Request} (h : r.checked = .ok checked) : checked = r := by
  unfold Request.checked at h
  split at h
  · exact (Except.ok.inj h).symm
  · split at h
    · cases h
    · split at h
      · cases h
      · exact (Except.ok.inj h).symm

/-- What an accepted command line asks for is what a scan of its arguments found. -/
theorem exists_found_of_ofArguments {arguments : List RawText} {r : Request}
    (h : ofArguments arguments = .ok r) :
    ∃ f, Scan.start.run arguments.tail = .ok f ∧ f.verbosity = .ok r.verbosity ∧
      f.user = .ok r.user ∧ r.paths = f.paths ∧ r.policy = f.policy ∧ r.quiet = f.quiet := by
  simp only [ofArguments] at h
  cases hfound : Scan.start.run arguments.tail with
  | error e => simp [hfound, bind, Except.bind] at h
  | ok f =>
      simp only [hfound, bind, Except.bind, ofFound] at h
      cases hverbosity : f.verbosity with
      | error e => simp [hverbosity] at h
      | ok verbosity =>
          cases huser : f.user with
          | error e => simp [hverbosity, huser] at h
          | ok user =>
              simp only [hverbosity, huser, pure, Except.pure] at h
              obtain rfl := checked_eq h
              exact ⟨f, rfl, hverbosity, huser, rfl, rfl, rfl⟩

end Request

end ReadAccess.CommandLine
