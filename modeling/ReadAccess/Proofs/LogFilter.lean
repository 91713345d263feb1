/-
  What a filter of the log says when a verbosity writes it.

  The directives of a verbosity are about different targets, so each of them stays in the
  filter, and the text that they make reads back as this filter
  (`Filter.ofText_directivesText`).  It shows the informational lines of the subsystems with
  a level of their own, and under a quiet verbosity none (`Filter.shows_ofVerbosity`).
-/
import Mathlib.Data.List.Nodup
import ReadAccess.Filter
import ReadAccess.Proofs.Results

set_option autoImplicit false

namespace ReadAccess

namespace Filter

/-! ## Directives about different subjects -/

theorem insert_of_forall_not_same {d : Directive} {ds : List Directive}
    (h : ∀ e ∈ ds, e.same d.toSubject = false) : insert d ds = ds ++ [d] := by
  induction ds with
  | nil => rfl
  | cons e rest ih =>
      rw [insert, if_neg (by simp [h e List.mem_cons_self]),
        ih fun e' he' => h e' (List.mem_cons_of_mem e he'), List.cons_append]

/-- Directives of which no two are about the same are all kept, in order. -/
theorem collect_of_pairwise {ds : List Directive}
    (h : ds.Pairwise fun e d => e.same d.toSubject = false) : collect ds = ds := by
  suffices hkept : ∀ kept rest : List Directive,
      (kept ++ rest).Pairwise (fun e d => e.same d.toSubject = false) →
        rest.foldl (fun acc d => insert d acc) kept = kept ++ rest from hkept [] ds h
  intro kept rest hdistinct
  induction rest generalizing kept with
  | nil => exact (List.append_nil kept).symm
  | cons d rest ih =>
      have hnew : ∀ e ∈ kept, e.same d.toSubject = false := fun e he =>
        (List.pairwise_append.mp hdistinct).2.2 e he d List.mem_cons_self
      rw [List.foldl_cons, insert_of_forall_not_same hnew, ih, List.append_assoc]
      · rfl
      · rwa [← List.append_cons]

/-- Rules about different targets make up a filter as they are. -/
theorem ofDirectives_plain {rules : List (Option String × Severity)}
    (h : (rules.map Prod.fst).Nodup) :
    ofDirectives (rules.map fun d => .plain d.1 d.2) =
      ⟨rules.map fun d => .plain d.1 d.2, []⟩ := by
  have hlines : ∀ d ∈ rules.map fun d => Directive.plain d.1 d.2, d.isOfLines = true :=
    List.forall_mem_map.mpr fun _ _ => rfl
  have hspans : ∀ d ∈ rules.map fun d => Directive.plain d.1 d.2, ¬ d.isOfSpans = true :=
    List.forall_mem_map.mpr fun _ _ => Bool.false_ne_true
  have hdistinct : (rules.map fun d => Directive.plain d.1 d.2).Pairwise
      fun e d => e.same d.toSubject = false := by
    rw [List.pairwise_map]
    refine (List.pairwise_map.mp h).imp fun hne => ?_
    simp [Directive.plain, Subject.same, hne]
  rw [ofDirectives, List.filter_eq_self.mpr hlines, List.filter_eq_nil_iff.mpr hspans,
    collect_of_pairwise hdistinct]
  rfl

end Filter

/-! ## The directives of a verbosity -/

/-- Every level but the lowest shows informational lines. -/
theorem Severity.showsInfo_ofLevel {level : UInt8} (h : 0 < level) :
    (Severity.ofLevel level).showsInfo = true := by
  have hsome : level ≠ 0 := by
    rintro rfl
    exact absurd h (by decide)
  rw [Severity.ofLevel, if_neg hsome]
  split
  · rfl
  · split <;> rfl

namespace Subsystem

theorem target_injective {s t : Subsystem} (h : s.target = t.target) : s = t := by
  cases s <;> cases t <;> first | rfl | exact absurd h (by decide)

/-- No target of a subsystem is the start of another one. -/
theorem isPrefixOf_target (s t : Subsystem) :
    s.target.toList.isPrefixOf t.target.toList = (s == t) := by
  cases s <;> cases t <;> decide

theorem filter_all (p : Subsystem → Bool) (s : Subsystem) :
    all.filter (fun t => t == s && p t) = if p s then [s] else [] := by
  cases s <;> simp [all, List.filter_cons]

end Subsystem

namespace Verbosity

theorem nodup_directives (v : Verbosity) : (v.directives.map Prod.fst).Nodup := by
  unfold directives
  split
  · exact List.nodup_singleton _
  · have hraised : (v.raised.map fun r => some r.1.target).Nodup := by
      rw [raised, List.map_map]
      refine List.Nodup.map ?_ ((by decide : Subsystem.all.Nodup).filter _)
      intro s t h
      exact Subsystem.target_injective (Option.some.inj h)
    simpa [Function.comp_def] using hraised

/-- A directive of a verbosity is about everything or about one subsystem. -/
theorem target_of_mem_directives {v : Verbosity} {d : Option String × Severity}
    (h : d ∈ v.directives) : d.1 = none ∨ ∃ s : Subsystem, d.1 = some s.target := by
  unfold directives at h
  split at h
  · obtain rfl := List.mem_singleton.mp h
    exact .inl rfl
  · obtain rfl | hraised := List.mem_cons.mp h
    · exact .inl rfl
    · obtain ⟨r, -, rfl⟩ := List.mem_map.mp hraised
      exact .inr ⟨r.1, rfl⟩

end Verbosity

/-! ## Writing and reading back -/

namespace Directive

theorem piece_append (xs ys zs : List Char) :
    piece (xs ++ ys ++ zs) (Text.byteCount xs) (Text.byteCount (xs ++ ys)) = .ok ys := by
  rw [piece, Text.excerpt_append]

/-- Whether a character has no meaning of its own in a text of directives. -/
def isOrdinary (c : Char) : Bool := !Text.isBlank c && c != ',' && c != '=' && c != '['

theorem comma_notMem {cs : List Char} (h : ∀ c ∈ cs, isOrdinary c = true) : ',' ∉ cs :=
  fun hc => absurd (h ',' hc) (by decide)

/-- A target and a severity on two sides of an equals sign are read as they are. -/
theorem ofText_assigned {target behind : List Char} {first : Char} {severity : Severity}
    (hfirst : target.head? = some first) (hstart : mayStart first = true)
    (htarget : ∀ c ∈ target, isOrdinary c = true) (hbehind : ∀ c ∈ behind, isOrdinary c = true)
    (hseverity : severityBehind? behind = some severity) :
    ofText (target ++ '=' :: behind) = .ok (plain (some (String.ofList target)) severity) := by
  have htrim : Text.trim (target ++ '=' :: behind) = target ++ '=' :: behind := by
    have hblank : ∀ c, isOrdinary c = true → Text.isBlank c = false := by
      intro c hc
      simp only [isOrdinary, Bool.and_eq_true, Bool.not_eq_true'] at hc
      exact hc.1.1.1
    refine Text.trim_eq_self fun c hc => ?_
    obtain hc | hc := List.mem_append.mp hc
    · exact hblank c (htarget c hc)
    · obtain rfl | hc := List.mem_cons.mp hc
      · decide
      · exact hblank c (hbehind c hc)
  have hhead : (target ++ '=' :: behind).head? = some first := by
    rw [List.head?_append, hfirst]
    rfl
  have hdrop : (target ++ '=' :: behind).dropWhile (fun c => c != '=' && c != '[') =
      '=' :: behind := by
    rw [List.dropWhile_append_of_pos]
    · exact List.dropWhile_cons_of_neg (by decide)
    · intro c hc
      have hordinary := htarget c hc
      simp only [isOrdinary, Bool.and_eq_true] at hordinary
      simp [hordinary]
  -- The places are where the target ends, behind the sign, and at the end.
  have hend : Text.byteCount (target ++ '=' :: behind) - Text.byteCount ('=' :: behind) =
      Text.byteCount target := by
    rw [Text.byteCount_append, Nat.add_sub_cancel]
  have hsign : Text.byteCount (target ++ '=' :: behind) - Text.byteCount behind =
      Text.byteCount (target ++ ['=']) := by
    rw [List.append_cons, Text.byteCount_append, Nat.add_sub_cancel]
  have hcut : piece (target ++ '=' :: behind) 0 (Text.byteCount target) = .ok target :=
    piece_append [] target ('=' :: behind)
  have hfrom : piece (target ++ '=' :: behind) (Text.byteCount (target ++ ['=']))
      (Text.byteCount (target ++ '=' :: behind)) = .ok behind := by
    have h := piece_append (target ++ ['=']) behind []
    rwa [List.append_nil, ← List.append_cons] at h
  rw [ofText]
  simp only [htrim, hhead, hdrop, Nat.sub_self, hend, hsign, hcut, hfrom, required]
  simp [hstart, hseverity, bind, Except.bind, pure, Except.pure]

/-- What a directive is as a text: some characters, no comma among them, that read back as
the directive. -/
structure ReadsBack (d : Option String × Severity) : Prop where
  isEmpty : (Verbosity.directiveText d).toList.isEmpty = false
  comma : ',' ∉ (Verbosity.directiveText d).toList
  ofText : ofText (Verbosity.directiveText d).toList = .ok (.plain d.1 d.2)

end Directive

theorem Severity.isOrdinary_text (severity : Severity) :
    ∀ c ∈ severity.text.toList, Directive.isOrdinary c = true := by
  rw [← List.all_eq_true]
  cases severity <;> decide

theorem Severity.severityBehind?_text (severity : Severity) :
    Directive.severityBehind? severity.text.toList = some severity := by
  cases severity <;> decide +kernel

theorem Subsystem.isOrdinary_target (s : Subsystem) :
    ∀ c ∈ s.target.toList, Directive.isOrdinary c = true := by
  rw [← List.all_eq_true]
  cases s <;> decide

theorem Subsystem.head?_target (s : Subsystem) : s.target.toList.head? = some 'p' := by
  cases s <;> decide

namespace Directive

theorem readsBack_severity (severity : Severity) : ReadsBack (none, severity) where
  isEmpty := by cases severity <;> decide
  comma := comma_notMem severity.isOrdinary_text
  ofText := by cases severity <;> decide +kernel

theorem readsBack_target (s : Subsystem) (severity : Severity) :
    ReadsBack (some s.target, severity) := by
  have htext : (Verbosity.directiveText (some s.target, severity)).toList =
      s.target.toList ++ '=' :: severity.text.toList := by
    simp [Verbosity.directiveText]
  constructor
  · simp [htext]
  · simp [htext, comma_notMem s.isOrdinary_target, comma_notMem severity.isOrdinary_text]
  · rw [htext, ofText_assigned s.head?_target (by decide) s.isOrdinary_target
      severity.isOrdinary_text severity.severityBehind?_text, String.ofList_toList]

theorem readsBack_of_mem {v : Verbosity} {d : Option String × Severity} (h : d ∈ v.directives) :
    ReadsBack d := by
  obtain ⟨target, severity⟩ := d
  obtain rfl | ⟨s, rfl⟩ : target = none ∨ ∃ s : Subsystem, target = some s.target :=
    Verbosity.target_of_mem_directives h
  · exact readsBack_severity severity
  · exact readsBack_target s severity

end Directive

namespace Filter

/-- **The directives of a verbosity read back** as the filter that it stands for. -/
theorem ofText_directivesText (v : Verbosity) : ofText v.directivesText = .ok (ofVerbosity v) := by
  have hsplit : Text.splitOn ',' v.directivesText.toList =
      v.directives.map fun d => (Verbosity.directiveText d).toList := by
    rw [Text.splitOn_eq, Verbosity.directivesText, String.toList_intercalate, List.map_map]
    refine List.splitOn_intercalate ',' ?_ ?_
    · exact List.forall_mem_map.mpr fun d hd => (Directive.readsBack_of_mem hd).comma
    · unfold Verbosity.directives
      split <;> simp
  have hsome : ∀ piece ∈ v.directives.map fun d => (Verbosity.directiveText d).toList,
      (!piece.isEmpty) = true :=
    List.forall_mem_map.mpr fun d hd => by simp [(Directive.readsBack_of_mem hd).isEmpty]
  have hread :
      (v.directives.map fun d => (Verbosity.directiveText d).toList).mapM Directive.ofText =
        .ok (v.directives.map fun d => .plain d.1 d.2) := by
    rw [mapM_eq_ok_iff, List.forall₂_map_left_iff, List.forall₂_map_right_iff, List.forall₂_same]
    exact fun d hd => (Directive.readsBack_of_mem hd).ofText
  rw [ofText, hsplit, List.filter_eq_self.mpr hsome, hread]
  rfl

/-! ## What is shown -/

/-- Of the directives of a verbosity those about everything and about the subsystem itself
match its lines. -/
theorem matching_ofVerbosity {v : Verbosity} (hquiet : v.quiet = false) (s : Subsystem) :
    ((ofVerbosity v).lineRules.filter fun d => d.matchesLines s.target) =
      .plain none .warn :: if 0 < v.levels.get s
        then [.plain (some s.target) (.ofLevel (v.levels.get s))] else [] := by
  have hmatches : ∀ t : Subsystem,
      (Directive.plain (some t.target) (.ofLevel (v.levels.get t))).matchesLines s.target =
        (t == s) := by
    intro t
    simp [Directive.matchesLines, Directive.plain, Subsystem.isPrefixOf_target]
  have hraised : ((v.raised.map fun r => Directive.plain (some r.1.target) r.2).filter
        fun d => d.matchesLines s.target) =
      if 0 < v.levels.get s
        then [.plain (some s.target) (.ofLevel (v.levels.get s))] else [] := by
    rw [Verbosity.raised, List.map_map, List.filter_map, List.filter_filter]
    simp only [Function.comp_def, hmatches, Subsystem.filter_all, decide_eq_true_eq]
    split <;> rfl
  rw [ofVerbosity, ofDirectives_plain v.nodup_directives, Verbosity.directives,
    if_neg (by simp [hquiet]), ← hraised, List.map_cons, List.map_map, List.filter_cons_of_pos rfl]
  rfl

theorem deciding?_ofVerbosity {v : Verbosity} (hquiet : v.quiet = false) (s : Subsystem) :
    (ofVerbosity v).deciding? s.target =
      some (if 0 < v.levels.get s
        then .plain (some s.target) (.ofLevel (v.levels.get s)) else .plain none .warn) := by
  rw [deciding?, matching_ofVerbosity hquiet]
  by_cases hlevel : 0 < v.levels.get s
  · simp [hlevel, closer, Directive.isCloserThan, Directive.closeness, Directive.plain]
  · simp [hlevel, closer]

/-- **The informational lines that the filter of a verbosity shows** are those of subsystems
with a level, unless only errors are shown. -/
theorem shows_ofVerbosity (v : Verbosity) (s : Subsystem) :
    (ofVerbosity v).shows s = (!v.quiet && decide (0 < v.levels.get s)) := by
  cases hquiet : v.quiet with
  | true =>
      have hfilter : ofVerbosity v = ofDirectives [.plain none .error] := by
        simp [ofVerbosity, Verbosity.directives, hquiet]
      rw [hfilter]
      rfl
  | false =>
      rw [shows, deciding?_ofVerbosity hquiet]
      by_cases hlevel : 0 < v.levels.get s
      · simp [hlevel, Directive.plain, Severity.showsInfo_ofLevel hlevel]
      · simp [hlevel, Directive.plain, Severity.showsInfo, Severity.rank]

/-- The filter that shows everything. -/
def everything : Filter := ofDirectives [.plain none .trace]

theorem ofText_trace : ofText "trace" = .ok everything := by rfl

theorem shows_everything (s : Subsystem) : everything.shows s = true := rfl

end Filter

end ReadAccess
