/-
  Settings that bring lists of debug flags.

  A scan collects the lists and looks at none of them, so the settings that bring lists may be
  left out, and what a scan finds besides is the same (`Scan.run_withoutLists`).  As lists one
  after the other come to what they come to when they are joined, a command line asks for the
  same as the one with a single setting for all of its lists (`flagLists_compose`).
-/
import ReadAccess.Proofs.FlagLists
import ReadAccess.Proofs.Scanning

set_option autoImplicit false

namespace ReadAccess.CommandLine

open Text (RawText)

/-! ## Scans that look at what is pending -/

namespace Scan

variable {s t : Scan} {f g : Found}

/-- A scan that settles may settle before a move. -/
theorem move_of_settle (h : s.settle = .ok g) (m : Move) : s.move m = move ⟨g, none⟩ m := by
  have hg : settle ⟨g, none⟩ = .ok g := rfl
  cases m with
  | switch switch => simp only [move, onSwitch, h, hg]
  | setting setting value => simp only [move, onSetting, h, hg]
  | operand argument =>
      rcases s with ⟨found, _ | ⟨setting, _ | value⟩⟩
      · obtain rfl := Except.ok.inj h
        rfl
      · cases h
      · simp only [move, onOperand, h, hg]

/-- A scan that awaits no value settles before its first move, or at the end. -/
theorem settles_of_moveAll {moves : List Move} (hawaits : s.awaits? = none)
    (hmoves : s.moveAll moves = .ok t) (ht : t.settle = .ok f) : ∃ g, s.settle = .ok g := by
  cases moves with
  | nil =>
      obtain rfl := Except.ok.inj hmoves
      exact ⟨f, ht⟩
  | cons m rest =>
      obtain ⟨next, hm, -⟩ := moveAll_cons_eq_ok_iff.mp hmoves
      cases m with
      | switch switch =>
          obtain ⟨g, -, hg, -⟩ := onSwitch_eq_ok_iff.mp hm
          exact ⟨g, hg⟩
      | setting setting value =>
          obtain ⟨g, hg, -⟩ := onSetting_eq_ok_iff.mp hm
          exact ⟨g, hg⟩
      | operand argument =>
          obtain ⟨setting, hsome, -⟩ | ⟨g, hg, -⟩ := onOperand_eq_ok_iff.mp hm
          · rw [hawaits] at hsome
            cases hsome
          · exact ⟨g, hg⟩

/-- **A scan that awaits no value may settle before it goes on.** -/
theorem run_eq_ok_iff_of_awaits (hawaits : s.awaits? = none) {arguments : List RawText} :
    s.run arguments = .ok f ↔
      ∃ g, s.settle = .ok g ∧ run ⟨g, none⟩ arguments = .ok f := by
  have hmoves : ∀ g, s.settle = .ok g → ∀ moves k,
      (∃ t, s.moveAll moves = .ok t ∧ t.settle = .ok k) ↔
        ∃ t, moveAll ⟨g, none⟩ moves = .ok t ∧ t.settle = .ok k := by
    intro g hg moves k
    cases moves with
    | nil =>
        have hsettled : settle ⟨g, none⟩ = .ok g := rfl
        simp [moveAll, hg, hsettled]
    | cons m rest => simp only [moveAll_cons_eq_ok_iff, move_of_settle hg]
  constructor
  · intro h
    obtain ⟨moves, t, k, hoptions, ht, hk, rfl⟩ := run_eq_ok_iff.mp h
    obtain ⟨g, hg⟩ := settles_of_moveAll hawaits ht hk
    obtain ⟨u, hu, hsettle⟩ := (hmoves g hg moves k).mp ⟨t, ht, hk⟩
    exact ⟨g, hg, run_eq_ok_iff.mpr ⟨moves, u, k, hoptions, hu, hsettle, rfl⟩⟩
  · rintro ⟨g, hg, h⟩
    obtain ⟨moves, t, k, hoptions, ht, hk, rfl⟩ := run_eq_ok_iff.mp h
    obtain ⟨u, hu, hsettle⟩ := (hmoves g hg moves k).mpr ⟨t, ht, hk⟩
    exact run_eq_ok_iff.mpr ⟨moves, u, k, hoptions, hu, hsettle, rfl⟩

end Scan

/-! ## Other lists -/

/-- What was found, but with these lists of flags. -/
def Found.withLists (f : Found) (lists : List String) : Found := { f with debug := lists }

/-- Where a scan stands, but with these lists of flags. -/
def Scan.withLists (s : Scan) (lists : List String) : Scan := ⟨s.found.withLists lists, s.pending⟩

namespace Found

variable {f g : Found} (lists : List String)

theorem addSwitch_withLists {switch : Switch} (h : f.addSwitch switch = .ok g) :
    (f.withLists lists).addSwitch switch = .ok (g.withLists lists) := by
  rw [addSwitch_eq_ok_iff] at h ⊢
  obtain ⟨hswitch, hnew, rfl⟩ | ⟨hswitch, hnew, rfl⟩ | ⟨hswitch, hnew, rfl⟩ | ⟨hswitch, rfl⟩ := h
  · exact .inl ⟨hswitch, hnew, rfl⟩
  · exact .inr (.inl ⟨hswitch, hnew, rfl⟩)
  · exact .inr (.inr (.inl ⟨hswitch, hnew, rfl⟩))
  · exact .inr (.inr (.inr ⟨hswitch, rfl⟩))

theorem addSetting_withLists {setting : Setting} {value : RawText} (hsetting : setting ≠ .debug)
    (h : f.addSetting setting value = .ok g) :
    (f.withLists lists).addSetting setting value = .ok (g.withLists lists) := by
  rw [addSetting_eq_ok_iff] at h ⊢
  obtain ⟨hdebug, -⟩ | ⟨hsame, hnew, n, hn, rfl⟩ | ⟨hsame, hnew, n, hn, rfl⟩ := h
  · exact absurd hdebug hsetting
  · exact .inr (.inl ⟨hsame, hnew, n, hn, rfl⟩)
  · exact .inr (.inr ⟨hsame, hnew, n, hn, rfl⟩)

/-- A list of flags is all that its setting brings. -/
theorem withLists_of_addSetting {value : RawText} (h : f.addSetting .debug value = .ok g) :
    g.withLists lists = f.withLists lists := by
  obtain ⟨-, text, -, rfl⟩ | ⟨⟨⟩, -⟩ | ⟨⟨⟩, -⟩ := addSetting_eq_ok_iff.mp h
  rfl

end Found

/-! ## Moves that bring no list -/

/-- Whether a move is a setting that brings a list of flags. -/
def Move.bringsList : Move → Bool
  | .setting .debug _ => true
  | _ => false

namespace Scan

variable {s t : Scan} {f g : Found} (lists : List String)

/-- A scan has no setting pending that brings a list of flags. -/
def IsUnflagged (s : Scan) : Prop := ∀ value, s.pending ≠ some (.debug, value)

theorem settle_withLists (hs : s.IsUnflagged) (h : s.settle = .ok f) :
    (s.withLists lists).settle = .ok (f.withLists lists) := by
  rcases s with ⟨found, _ | ⟨setting, _ | value⟩⟩
  · obtain rfl := Except.ok.inj h
    rfl
  · cases h
  · have hsetting : setting ≠ .debug := by
      rintro rfl
      exact hs _ rfl
    exact Found.addSetting_withLists lists hsetting h

/-- A move that brings no list goes on as it would with other lists. -/
theorem move_withLists {m : Move} (hs : s.IsUnflagged) (hm : m.bringsList = false)
    (h : s.move m = .ok t) :
    (s.withLists lists).move m = .ok (t.withLists lists) ∧ t.IsUnflagged := by
  cases m with
  | switch switch =>
      obtain ⟨f, g, hf, hg, rfl⟩ := onSwitch_eq_ok_iff.mp h
      refine ⟨onSwitch_eq_ok_iff.mpr ?_, fun _ => nofun⟩
      exact ⟨_, _, settle_withLists lists hs hf, Found.addSwitch_withLists lists hg, rfl⟩
  | setting setting value =>
      have hsetting : setting ≠ .debug := by
        rintro rfl
        cases hm
      obtain ⟨f, hf, ⟨hnone, rfl⟩ | ⟨v, g, hv, hg, rfl⟩⟩ := onSetting_eq_ok_iff.mp h
      · refine ⟨onSetting_eq_ok_iff.mpr ⟨_, settle_withLists lists hs hf, .inl ⟨hnone, rfl⟩⟩, ?_⟩
        rintro value ⟨⟩
        exact hsetting rfl
      · refine ⟨onSetting_eq_ok_iff.mpr ⟨_, settle_withLists lists hs hf, .inr ?_⟩, fun _ => nofun⟩
        exact ⟨v, _, hv, Found.addSetting_withLists lists hsetting hg, rfl⟩
  | operand argument =>
      obtain ⟨setting, hawaits, rfl⟩ | ⟨f, hf, rfl⟩ := onOperand_eq_ok_iff.mp h
      · refine ⟨onOperand_eq_ok_iff.mpr (.inl ⟨setting, hawaits, rfl⟩), ?_⟩
        rintro value ⟨⟩
        rcases s with ⟨found, _ | ⟨setting, _ | value⟩⟩
        · cases hawaits
        · obtain rfl := Option.some.inj hawaits
          exact hs none rfl
        · cases hawaits
      · refine ⟨onOperand_eq_ok_iff.mpr (.inr ?_), fun _ => nofun⟩
        exact ⟨_, settle_withLists lists hs hf, rfl⟩

theorem moveAll_withLists {moves : List Move} (hs : s.IsUnflagged)
    (hmoves : ∀ m ∈ moves, m.bringsList = false) (h : s.moveAll moves = .ok t) :
    (s.withLists lists).moveAll moves = .ok (t.withLists lists) ∧ t.IsUnflagged := by
  induction moves generalizing s with
  | nil =>
      obtain rfl := Except.ok.inj h
      exact ⟨rfl, hs⟩
  | cons m rest ih =>
      obtain ⟨hm, hrest⟩ := List.forall_mem_cons.mp hmoves
      obtain ⟨next, hnext, h⟩ := moveAll_cons_eq_ok_iff.mp h
      obtain ⟨hmove, hunflagged⟩ := move_withLists lists hs hm hnext
      obtain ⟨hall, ht⟩ := ih hunflagged hrest h
      exact ⟨moveAll_cons_eq_ok_iff.mpr ⟨_, hmove, hall⟩, ht⟩

end Scan

/-! ## Arguments that bring lists -/

/-- Whether an argument is a setting that brings a list of flags, with its value if the value
is in the same argument. -/
def listSetting? (argument : RawText) : Option (Option RawText) :=
  match formOf argument with
  | .long name value => if name = .ofString Setting.debug.long then some value else none
  | _ => none

/-- The arguments without the settings that bring lists of flags.  A setting without its value
takes the next argument along. -/
def withoutLists : List RawText → List RawText
  | [] => []
  | argument :: rest =>
      match listSetting? argument with
      | some (some _) => withoutLists rest
      | some none =>
          match rest with
          | [] => []
          | _ :: behind => withoutLists behind
      | none =>
          if formOf argument = .escape then argument :: rest
          else argument :: withoutLists rest

theorem movesOf?_of_listSetting {argument : RawText} {value : Option RawText}
    (h : listSetting? argument = some value) :
    formOf argument ≠ .escape ∧ movesOf? argument = some [.setting .debug value] := by
  unfold listSetting? at h
  split at h
  · next name given hform =>
    split at h
    · next hname =>
      obtain rfl := Option.some.inj h
      refine ⟨by simp [hform], ?_⟩
      rw [movesOf?, hform, hname]
      rfl
    · cases h
  · cases h

/-- A cluster of letters has a first one. -/
theorem glyphs_ne_nil {text : RawText} (hsome : text.bytes ≠ []) : text.glyphs ≠ [] := by
  unfold RawText.glyphs
  split
  · next s hs =>
    obtain rfl := RawText.eq_ofString_of_toString? hs
    intro hnil
    have hempty : s = "" := String.toList_inj.mp (by simpa using hnil)
    subst hempty
    exact hsome rfl
  · obtain ⟨bytes⟩ := text
    cases bytes with
    | nil => exact absurd rfl hsome
    | cons b rest =>
        rw [RawText.glyphsOf]
        exact List.cons_ne_nil _ _

/-- Letters stand for one switch each. -/
theorem exists_switches_of_letterMoves? {glyphs : List RawText.Glyph} {moves : List Move}
    (h : letterMoves? glyphs = some moves) :
    ∃ switches : List Switch, switches.length = glyphs.length ∧ moves = switches.map .switch := by
  induction glyphs generalizing moves with
  | nil =>
      obtain rfl := Option.some.inj h
      exact ⟨[], rfl, rfl⟩
  | cons glyph rest ih =>
      simp only [letterMoves?, Option.bind_eq_bind, Option.bind_eq_some_iff, Option.pure_def,
        Option.some.injEq] at h
      obtain ⟨m, hm, more, hmore, rfl⟩ := h
      obtain ⟨switches, hlength, rfl⟩ := ih hmore
      cases glyph with
      | broken bytes => cases hm
      | character c =>
          obtain ⟨switch, -, rfl⟩ := Option.map_eq_some_iff.mp hm
          exact ⟨switch :: switches, congrArg Nat.succ hlength, rfl⟩

/-- What an argument in front of two lone hyphens can stand for: switches, a setting, or
itself.  A setting for a list of flags is known by its name. -/
inductive StandsFor (argument : RawText) : List Move → Prop where
  | switches {switches : List Switch} (hsome : switches ≠ []) :
      StandsFor argument (switches.map .switch)
  | setting {setting : Setting} {value : Option RawText}
      (hlist : setting = .debug → listSetting? argument = some value) :
      StandsFor argument [.setting setting value]
  | operand : StandsFor argument [.operand argument]

theorem standsFor_of_movesOf? {argument : RawText} {moves : List Move}
    (hescape : formOf argument ≠ .escape) (h : movesOf? argument = some moves) :
    StandsFor argument moves := by
  unfold movesOf? at h
  split at h
  · next hform => exact absurd hform hescape
  · next name value hform =>
    obtain ⟨m, hm, rfl⟩ := Option.map_eq_some_iff.mp h
    unfold longMove? at hm
    split at hm
    · next switch _ =>
      split at hm
      · cases hm
      · obtain rfl := Option.some.inj hm
        exact .switches (List.cons_ne_nil switch [])
    · obtain ⟨setting, hsetting, rfl⟩ := Option.map_eq_some_iff.mp hm
      refine .setting ?_
      rintro rfl
      have hname := List.find?_some hsetting
      rw [listSetting?, hform, beq_iff_eq.mp hname]
      exact if_pos rfl
  · next letters hform =>
    obtain ⟨switches, hlength, rfl⟩ := exists_switches_of_letterMoves? h
    refine .switches ?_
    rintro rfl
    refine absurd (List.length_eq_zero_iff.mp hlength.symm) (glyphs_ne_nil ?_)
    unfold formOf at hform
    split at hform
    · cases hform
    · cases hform
    · obtain rfl := Form.short.inj hform
      exact List.cons_ne_nil _ _
    · cases hform
  · obtain rfl := Option.some.inj h
    exact .operand

/-- Only the arguments that are settings for them bring lists. -/
theorem StandsFor.bringsList {argument : RawText} {moves : List Move}
    (h : StandsFor argument moves) (hother : listSetting? argument = none) :
    ∀ m ∈ moves, m.bringsList = false := by
  cases h with
  | switches hsome =>
      intro m hm
      obtain ⟨switch, -, rfl⟩ := List.mem_map.mp hm
      rfl
  | @setting setting value hlist =>
      rw [List.forall_mem_singleton]
      cases setting with
      | debug =>
          rw [hlist rfl] at hother
          cases hother
      | initialGroups => rfl
      | groupIncrement => rfl
  | operand =>
      rw [List.forall_mem_singleton]
      rfl

namespace Scan

variable {s t : Scan} {f : Found} (lists : List String)

/-- The value that a scan awaits can only be an operand. -/
theorem eq_of_awaits {argument : RawText} {moves : List Move} {setting : Setting}
    (hawaits : s.awaits? = some setting) (hstands : StandsFor argument moves)
    (h : s.moveAll moves = .ok t) : t = ⟨s.found, some (setting, some argument)⟩ := by
  have hunsettled : ∀ g, s.settle ≠ .ok g := by
    intro g hg
    rw [awaits?_eq_none_of_settle hg] at hawaits
    cases hawaits
  cases hstands with
  | @switches switches hsome =>
      cases switches with
      | nil => exact absurd rfl hsome
      | cons switch rest =>
          obtain ⟨next, hswitch, -⟩ := moveAll_cons_eq_ok_iff.mp h
          obtain ⟨g, -, hg, -⟩ := onSwitch_eq_ok_iff.mp hswitch
          exact absurd hg (hunsettled g)
  | setting hlist =>
      obtain ⟨g, hg, -⟩ := onSetting_eq_ok_iff.mp (moveAll_singleton_eq_ok_iff.mp h)
      exact absurd hg (hunsettled g)
  | operand =>
      obtain ⟨awaited, hsome, rfl⟩ | ⟨g, hg, -⟩ :=
        onOperand_eq_ok_iff.mp (moveAll_singleton_eq_ok_iff.mp h)
      · obtain rfl := Option.some.inj (hawaits.symm.trans hsome)
        rfl
      · exact absurd hg (hunsettled g)

/-- A setting that brings a list of flags is one move. -/
theorem run_of_listSetting {argument : RawText} {value : Option RawText} {rest : List RawText}
    (hlist : listSetting? argument = some value) (h : s.run (argument :: rest) = .ok f) :
    ∃ next, s.onSetting .debug value = .ok next ∧ next.run rest = .ok f := by
  obtain ⟨hescape, hmoves⟩ := movesOf?_of_listSetting hlist
  obtain ⟨next, hnext, h⟩ := exists_of_run_cons hescape hmoves h
  exact ⟨next, moveAll_singleton_eq_ok_iff.mp hnext, h⟩

/-- Behind a setting without its value the next argument is its value. -/
theorem run_of_awaits {g : Found} {setting : Setting} {value : RawText} {rest : List RawText}
    (h : run ⟨g, some (setting, none)⟩ (value :: rest) = .ok f) :
    ∃ k, g.addSetting setting value = .ok k ∧ run ⟨k, none⟩ rest = .ok f := by
  have hescape : formOf value ≠ .escape := by
    intro hform
    obtain ⟨k, hk, -⟩ := (run_escape_eq_ok_iff hform).mp h
    cases hk
  obtain ⟨moves, next, hmoves, hnext, h⟩ := (run_cons_eq_ok_iff hescape).mp h
  obtain rfl := eq_of_awaits rfl (standsFor_of_movesOf? hescape hmoves) hnext
  exact (run_eq_ok_iff_of_awaits rfl).mp h

/-- With other lists a scan goes on as it does behind a setting that brings one. -/
theorem run_withLists_of_addSetting {g k : Found} {value : RawText} {arguments : List RawText}
    (hs : s.IsUnflagged) (hg : s.settle = .ok g) (hadd : g.addSetting .debug value = .ok k)
    (h : (withLists ⟨k, none⟩ lists).run arguments = .ok f) :
    (s.withLists lists).run arguments = .ok f := by
  have hsettle := settle_withLists lists hs hg
  refine (run_eq_ok_iff_of_awaits (awaits?_eq_none_of_settle hsettle)).mpr ⟨_, hsettle, ?_⟩
  rw [withLists, Found.withLists_of_addSetting lists hadd] at h
  exact h

/-- **Settings that bring lists of flags may be left out.**  By induction on the arguments,
over the scans in front of them. -/
theorem run_withoutLists {arguments : List RawText} (hs : s.IsUnflagged)
    (h : s.run arguments = .ok f) :
    (s.withLists lists).run (withoutLists arguments) = .ok (f.withLists lists) := by
  fun_induction withoutLists arguments generalizing s with
  | case1 => exact settle_withLists lists hs h
  | case2 argument rest value hlist ih =>
      obtain ⟨next, hnext, h⟩ := run_of_listSetting hlist h
      obtain ⟨g, hg, ⟨hnone, -⟩ | ⟨v, k, -, hadd, rfl⟩⟩ := onSetting_eq_ok_iff.mp hnext
      · cases hnone
      · exact run_withLists_of_addSetting lists hs hg hadd (ih (fun _ => nofun) h)
  | case3 argument hlist =>
      -- The value is missing, and the scan does not settle.
      obtain ⟨next, hnext, h⟩ := run_of_listSetting hlist h
      obtain ⟨g, -, ⟨-, rfl⟩ | ⟨v, k, hsome, -, -⟩⟩ := onSetting_eq_ok_iff.mp hnext
      · cases h
      · cases hsome
  | case4 argument hlist value behind ih =>
      obtain ⟨next, hnext, h⟩ := run_of_listSetting hlist h
      obtain ⟨g, hg, ⟨-, rfl⟩ | ⟨v, k, hsome, -, -⟩⟩ := onSetting_eq_ok_iff.mp hnext
      · obtain ⟨k, hadd, h⟩ := run_of_awaits h
        exact run_withLists_of_addSetting lists hs hg hadd (ih (fun _ => nofun) h)
      · cases hsome
  | case5 argument rest hlist hescape =>
      obtain ⟨g, hg, rfl⟩ := (run_escape_eq_ok_iff hescape).mp h
      exact (run_escape_eq_ok_iff hescape).mpr ⟨_, settle_withLists lists hs hg, rfl⟩
  | case6 argument rest hlist hescape ih =>
      obtain ⟨moves, next, hmoves, hnext, h⟩ := (run_cons_eq_ok_iff hescape).mp h
      obtain ⟨hmove, hunflagged⟩ :=
        moveAll_withLists lists hs ((standsFor_of_movesOf? hescape hmoves).bringsList hlist) hnext
      exact (run_cons_eq_ok_iff hescape).mpr ⟨moves, _, hmoves, hmove, ih hunflagged h⟩

end Scan

/-! ## One setting for all lists -/

/-- The setting that brings several lists as one. -/
def joinedLists (lists : List String) : RawText :=
  (RawText.ofString "--debug=").append (.ofString (String.intercalate "," lists))

theorem movesOf?_joinedLists (lists : List String) :
    movesOf? (joinedLists lists) =
      some [.setting .debug (some (.ofString (String.intercalate "," lists)))] := rfl

/-- In front of arguments that bring no list, this setting brings all that there are. -/
theorem run_joinedLists {arguments : List RawText} {f : Found}
    (h : Scan.start.run arguments = .ok f) :
    Scan.start.run (joinedLists f.debug :: withoutLists arguments) =
      .ok (f.withLists [String.intercalate "," f.debug]) := by
  have hescape : formOf (joinedLists f.debug) ≠ .escape := by
    have hform : formOf (joinedLists f.debug) = .long (.ofString Setting.debug.long)
        (some (.ofString (String.intercalate "," f.debug))) := rfl
    simp [hform]
  have hstart : Scan.start.IsUnflagged := fun _ => nofun
  have hlists := Scan.run_withoutLists [String.intercalate "," f.debug] hstart h
  refine (Scan.run_cons_eq_ok_iff hescape).mpr ⟨_, _, movesOf?_joinedLists f.debug, ?_, hlists⟩
  have hadd : Found.nothing.addSetting .debug (.ofString (String.intercalate "," f.debug)) =
      .ok (Found.nothing.withLists [String.intercalate "," f.debug]) :=
    Found.addSetting_eq_ok_iff.mpr (.inl ⟨rfl, _, rfl, rfl⟩)
  exact Scan.moveAll_singleton_eq_ok_iff.mpr
    (Scan.onSetting_eq_ok_iff.mpr ⟨_, rfl, .inr ⟨_, _, rfl, hadd, rfl⟩⟩)

/-- What was found asks for the same if its lists are joined. -/
theorem ofFound_withLists_join (f : Found) :
    Request.ofFound (f.withLists [String.intercalate "," f.debug]) = Request.ofFound f := by
  have hverbosity : (f.withLists [String.intercalate "," f.debug]).verbosity = f.verbosity := by
    rw [Found.verbosity, Found.verbosity, ← Verbosity.applyFlagLists_join _ f.debug]
    rfl
  rw [Request.ofFound, hverbosity]
  rfl

/-- **Lists of debug flags compose.**  The tokens of a list count one after the other, up to
the first one that is no flag; a list joined to another one counts behind it; and a command
line asks for the same, or is rejected for the same reason, if a single setting brings all of
its lists. -/
theorem flagLists_compose (v : Verbosity) (list other : String) (program : RawText)
    (arguments : List RawText) :
    (∃ tokens, Verbosity.IsListed list tokens ∧ Verbosity.InOrder v tokens (v.applyFlags list)) ∧
      (v.applyFlags (list ++ "," ++ other) =
        match v.applyFlags list with
        | (next, none) => next.applyFlags other
        | (next, some fault) => (next, some fault)) ∧
      ∀ f, Scan.start.run arguments = .ok f →
        Scan.start.run (joinedLists f.debug :: withoutLists arguments) =
            .ok (f.withLists [String.intercalate "," f.debug]) ∧
          Request.ofArguments (program :: joinedLists f.debug :: withoutLists arguments) =
            Request.ofArguments (program :: arguments) := by
  refine ⟨⟨_, Verbosity.tokensOf_isListed list, Verbosity.applyTokens_inOrder v _⟩,
    Verbosity.applyFlags_append v list other, fun f hf => ⟨run_joinedLists hf, ?_⟩⟩
  have hjoined := run_joinedLists hf
  simp only [Request.ofArguments, List.tail_cons, hjoined, hf]
  simp only [bind, Except.bind, ofFound_withLists_join f]

/-- Two lists, the one in the argument of its setting and the other behind it. -/
theorem flagLists_compose_twoLists :
    let arguments := ["--debug=acl2", "--debug", "all3,acl", "alice", "/a"].map RawText.ofString
    ∃ f, Scan.start.run arguments = .ok f ∧ f.debug = ["acl2", "all3,acl"] ∧
      Request.ofArguments
          (["permcheck", "--debug=acl2,all3,acl", "alice", "/a"].map RawText.ofString) =
        Request.ofArguments (.ofString "permcheck" :: arguments) := by
  refine ⟨⟨false, false, false, 0, ["acl2", "all3,acl"], none, none,
    [.ofString "alice", .ofString "/a"]⟩, by decide, rfl, ?_⟩
  exact ((flagLists_compose .standard "acl2" "all3,acl" (.ofString "permcheck")
    (["--debug=acl2", "--debug", "all3,acl", "alice", "/a"].map RawText.ofString)).2.2
    ⟨false, false, false, 0, ["acl2", "all3,acl"], none, none,
      [.ofString "alice", .ofString "/a"]⟩ (by decide)).2

end ReadAccess.CommandLine
