/-
  The standard output as a reader of lines sees it.

  A run writes a result and a line feed for each path with a verdict, and the path in it as it
  is shown.  A line feed in a path is therefore one on the output, and the reader sees one line
  for each verdict exactly if no path with a verdict has a line feed in it
  (`run_oneLineEach_iff`).  What stands behind a line feed in a path reads as a line of its own,
  even if it looks like the result of a path that nobody asked about.
-/
import ReadAccess.Proofs.Composition
import ReadAccess.Proofs.LineFeeds

set_option autoImplicit false

namespace ReadAccess.CommandLine

open Text (RawText splitOn)

/-! ## Results -/

/-- What a line says about a path. -/
def resultText (path : Path) (verdict : Verdict) : String :=
  verdict.text ++ ": " ++ path.shown

/-- The paths whose queries have a verdict, with it, in order. -/
def verdicts (c : Collaborators) (user : String) (paths : List Path) : List (Path × Verdict) :=
  paths.filterMap fun path => (Query.run c user path).ending.toOption.map (path, ·)

theorem verdictLines_eq_map (c : Collaborators) (user : String) (paths : List Path) :
    verdictLines c user false paths =
      (verdicts c user paths).map fun t => resultText t.1 t.2 ++ "\n" := by
  rw [verdictLines, verdicts, List.map_filterMap]
  congr
  funext path
  cases (Query.run c user path).ending <;> rfl

/-- A result tells its verdict, and its path up to damage. -/
theorem resultText_eq_iff {p q : Path} {v w : Verdict} :
    resultText p v = resultText q w ↔ v = w ∧ p.shown = q.shown := by
  rw [← String.toList_inj, ← String.toList_inj]
  cases v <;> cases w <;> simp [resultText, Verdict.text]

theorem newlines_resultText (path : Path) (verdict : Verdict) :
    (RawText.ofString (resultText path verdict)).newlines = path.newlines := by
  have hword : (verdict.text ++ ": ").toList.count '\n' = 0 := by
    cases verdict <;> decide
  rw [RawText.newlines_ofString, resultText, String.toList_append, List.count_append, hword,
    Nat.zero_add, ← RawText.newlines_ofString, RawText.newlines_shown]

/-! ## Lines -/

/-- The output that says these results. -/
def saying (told : List (Path × Verdict)) : RawText :=
  .ofString (String.join (told.map fun t => resultText t.1 t.2 ++ "\n"))

/-- The lines that a result makes. -/
def linesOf (t : Path × Verdict) : List RawText :=
  (splitOn 10 (RawText.ofString (resultText t.1 t.2)).bytes).map RawText.mk

/-- A reader of lines sees each result on a line of its own, in order. -/
structure OneLineEach (told : List (Path × Verdict)) (out : RawText) : Prop where
  lines : out.endedLines = told.map fun t => .ofString (resultText t.1 t.2)
  /-- A line that reads as a result is that of a path with this verdict. -/
  faithful : ∀ path verdict, .ofString (resultText path verdict) ∈ out.endedLines →
    ∃ p, (p, verdict) ∈ told ∧ p.shown = path.shown

theorem linesOf_of_feedless {t : Path × Verdict} (ht : 10 ∉ t.1.bytes) :
    linesOf t = [.ofString (resultText t.1 t.2)] := by
  have hone : 10 ∉ (RawText.ofString (resultText t.1 t.2)).bytes := by
    rw [← List.count_eq_zero]
    exact (newlines_resultText t.1 t.2).trans (List.count_eq_zero.mpr ht)
  rw [linesOf, Text.splitOn_eq_singleton hone]
  rfl

section Lines

variable (told : List (Path × Verdict))

theorem bytes_saying :
    (saying told).bytes =
      told.flatMap fun t => (RawText.ofString (resultText t.1 t.2)).bytes ++ [10] := by
  rw [saying, RawText.bytes_ofString_join, List.flatMap_map]
  simp only [RawText.ofString_append]
  rfl

theorem endedLines_saying : (saying told).endedLines = told.flatMap linesOf := by
  rw [RawText.endedLines, bytes_saying, Text.splitOn_flatMap_ended, List.dropLast_concat,
    List.map_flatMap]
  rfl

/-- The output is made up of its lines: nothing stands behind the last one. -/
theorem flatMap_endedLines_saying :
    (saying told).endedLines.flatMap (fun line => line.bytes ++ [10]) = (saying told).bytes := by
  rw [endedLines_saying, bytes_saying, List.flatMap_assoc]
  refine congrArg (List.flatMap · told) (funext fun t => ?_)
  rw [linesOf, List.flatMap_map]
  exact Text.flatMap_splitOn_ended 10 _

theorem length_endedLines_saying :
    (saying told).endedLines.length =
      told.length + (told.flatMap fun t => t.1.bytes).count 10 := by
  rw [RawText.length_endedLines, RawText.newlines, bytes_saying]
  induction told with
  | nil => rfl
  | cons t rest ih =>
      have hline := newlines_resultText t.1 t.2
      rw [RawText.newlines, RawText.newlines] at hline
      simp only [List.flatMap_cons, List.count_append, List.count_singleton_self, List.length_cons,
        ih, hline]
      omega

variable {told}

theorem length_endedLines_saying_eq_iff :
    (saying told).endedLines.length = told.length ↔ ∀ t ∈ told, 10 ∉ t.1.bytes := by
  rw [length_endedLines_saying, Nat.add_eq_left, List.count_eq_zero]
  simp only [List.mem_flatMap, not_exists, not_and]

theorem oneLineEach_of_feedless (hfeedless : ∀ t ∈ told, 10 ∉ t.1.bytes) :
    OneLineEach told (saying told) := by
  have hlines : (saying told).endedLines = told.map fun t => .ofString (resultText t.1 t.2) := by
    rw [endedLines_saying, List.map_eq_flatMap]
    exact List.flatMap_congr fun t ht => linesOf_of_feedless (hfeedless t ht)
  refine ⟨hlines, fun path verdict hmem => ?_⟩
  rw [hlines] at hmem
  obtain ⟨⟨p, v⟩, ht, heq⟩ := List.mem_map.mp hmem
  obtain ⟨rfl, hshown⟩ := resultText_eq_iff.mp (RawText.ofString_injective heq)
  exact ⟨p, ht, hshown⟩

theorem oneLineEach_saying_iff :
    OneLineEach told (saying told) ↔ ∀ t ∈ told, 10 ∉ t.1.bytes := by
  refine ⟨fun heach => ?_, oneLineEach_of_feedless⟩
  rw [← length_endedLines_saying_eq_iff, heach.lines, List.length_map]

/-- Behind a line feed in a path every stretch is a line. -/
theorem mem_endedLines_saying {t : Path × Verdict} (ht : t ∈ told) {before behind : String}
    (hshown : t.1.shown = before ++ "\n" ++ behind) {stretch : List UInt8}
    (hstretch : stretch ∈ splitOn 10 (RawText.ofString behind).bytes) :
    ⟨stretch⟩ ∈ (saying told).endedLines := by
  have hbytes : (RawText.ofString (resultText t.1 t.2)).bytes =
      (RawText.ofString (t.2.text ++ ": " ++ before)).bytes ++
        10 :: (RawText.ofString behind).bytes := by
    rw [resultText, hshown, ← String.append_assoc, ← String.append_assoc]
    simp only [RawText.ofString_append, RawText.append, List.append_assoc]
    rfl
  rw [endedLines_saying, List.mem_flatMap]
  refine ⟨t, ht, ?_⟩
  rw [linesOf, hbytes, Text.splitOn_append_sep]
  exact List.mem_map.mpr ⟨stretch, List.mem_append_right _ hstretch, rfl⟩

end Lines

/-! ## Runs -/

/-- A run that is not stopped says the verdicts of its queries. -/
theorem stdout_eq_saying {h : Host} {channels : Channels} {arguments : List RawText} {r : Request}
    {user : String} (haccepted : Request.ofArguments arguments = .ok r)
    (hpaths : r.isInformation = false) (huser : r.user = some user) (hloud : r.quiet = false)
    (hfirst : r.policy.Allocatable) (hout : channels.out = .endless)
    (hflush : channels.flushFails = false) :
    stdout (run h channels arguments).trace =
      saying (verdicts (Live.collaborators h r.policy) user r.paths) := by
  have hcomposed := carryOut_composed (h := h) hout hflush hpaths huser hfirst channels.err r.paths
  rw [run_of_accepted h channels haccepted, saying, ← verdictLines_eq_map, ← hloud]
  exact hcomposed.out

/-- **A reader of lines sees one line for each verdict exactly if no path with a verdict has a
line feed in it.**  The lines are as many as the verdicts and the line feeds in their paths
together, nothing stands behind the last of them, and behind a line feed in a path every stretch
is a line, whatever it says. -/
theorem run_oneLineEach_iff (h : Host) (channels : Channels) (arguments : List RawText)
    {r : Request} (haccepted : Request.ofArguments arguments = .ok r)
    (hpaths : r.isInformation = false) (hloud : r.quiet = false) (hfirst : r.policy.Allocatable)
    (hout : channels.out = .endless) (hflush : channels.flushFails = false) :
    r.paths ≠ [] ∧ ∃ user, r.user = some user ∧
      let told := verdicts (Live.collaborators h r.policy) user r.paths
      let out := stdout (run h channels arguments).trace
      (OneLineEach told out ↔ ∀ t ∈ told, 10 ∉ t.1.bytes) ∧
      (out.endedLines.length = told.length ↔ ∀ t ∈ told, 10 ∉ t.1.bytes) ∧
      out.endedLines.length = told.length + (told.flatMap fun t => t.1.bytes).count 10 ∧
      out.endedLines.flatMap (fun line => line.bytes ++ [10]) = out.bytes ∧
      ∀ t ∈ told, ∀ before behind, t.1.shown = before ++ "\n" ++ behind →
        ∀ stretch ∈ splitOn 10 (RawText.ofString behind).bytes, ⟨stretch⟩ ∈ out.endedLines := by
  obtain ⟨⟨user, huser⟩, hnonempty⟩ := Request.ofArguments_operands haccepted hpaths
  refine ⟨hnonempty, user, huser, ?_⟩
  rw [stdout_eq_saying haccepted hpaths huser hloud hfirst hout hflush]
  exact ⟨oneLineEach_saying_iff, length_endedLines_saying_eq_iff, length_endedLines_saying _,
    flatMap_endedLines_saying _, fun t ht before behind hshown stretch =>
      mem_endedLines_saying ht hshown⟩

/-- A host with a file that only its owner may read, and whose name reads on behind a line feed
like the result of another one. -/
def twoLined : Host where
  users := [⟨⟨.ofString "eve", 7, none, none, true, true⟩, 100, []⟩]
  groups := []
  files := [⟨.ofString "/sealed\nallowed: /secret", 500, 50, 0o100600, none, .absent, none⟩]
  habit := .plain
  currentUid := 0

/-- One path makes two lines, and the second is a result about a path that was not asked about
and is not there.  Names without line feeds make a line each. -/
theorem run_oneLineEach_iff_twoLined :
    let out := stdout (run twoLined .unlimited
      (["permcheck", "eve", "/sealed\nallowed: /secret"].map .ofString)).trace
    out.endedLines.length = 2 ∧
      .ofString (resultText (.ofString "/secret") .allowed) ∈ out.endedLines ∧
      ¬ OneLineEach [(.ofString "/sealed\nallowed: /secret", .denied)] out ∧
      (Query.run (Live.collaborators twoLined .standard) "eve" (.ofString "/secret")).ending =
        .error (.error (.fileNotFound (.ofString "/secret"))) ∧
      OneLineEach [(.ofString "/sealed", .denied), (.ofString "/open", .allowed)]
        (stdout (eveAsks ["/sealed", "/none", "/open"]).trace) := by
  intro out
  let r (paths : List String) : Request :=
    ⟨false, false, .standard, false, .standard, some "eve", paths.map .ofString⟩
  obtain ⟨-, user, huser, heach, -, hcount, -, hforged⟩ := run_oneLineEach_iff twoLined .unlimited
    (["permcheck", "eve", "/sealed\nallowed: /secret"].map .ofString)
    (r := r ["/sealed\nallowed: /secret"]) rfl rfl rfl (by decide) rfl rfl
  obtain rfl : "eve" = user := Option.some.inj huser
  have htold : verdicts (Live.collaborators twoLined .standard) "eve"
      (["/sealed\nallowed: /secret"].map .ofString) =
        [(.ofString "/sealed\nallowed: /secret", .denied)] := by
    decide +kernel
  obtain ⟨-, user, huser, heach', -⟩ := run_oneLineEach_iff openAndSealed .unlimited
    (("permcheck" :: "eve" :: ["/sealed", "/none", "/open"]).map .ofString)
    (r := r ["/sealed", "/none", "/open"]) rfl rfl rfl (by decide) rfl rfl
  obtain rfl : "eve" = user := Option.some.inj huser
  have htold' : verdicts (Live.collaborators openAndSealed .standard) "eve"
      (["/sealed", "/none", "/open"].map .ofString) =
        [(.ofString "/sealed", .denied), (.ofString "/open", .allowed)] := by
    decide +kernel
  simp only [r, htold] at heach hcount hforged
  simp only [r, htold'] at heach'
  refine ⟨hcount.trans (by decide), ?_, mt heach.mp (by decide), by decide +kernel,
    heach'.mpr (by decide)⟩
  refine hforged _ List.mem_cons_self "/sealed" "allowed: /secret" ?_ _ ?_
  · decide +kernel
  · decide +kernel

end ReadAccess.CommandLine
