/-
  What runs of the program write, and when two of them write the same.

  A run reads nothing from a query but how it ended, and `afterQuery` is what it
  does from there on.  So two runs over collaborators of their own write the same
  and end alike, unless one of them shows a query that ends differently with the
  other's collaborators (`checkPaths_sameResults_or_parts`).
-/
import Mathlib.Data.List.Basic
import ReadAccess.CommandLine.Run

set_option autoImplicit false

namespace ReadAccess.CommandLine

open Text (RawText)

/-! ## Results -/

/-- What a happening writes as a result, and where: verdicts and errors are
results, calls and lines of the log are none. -/
def Happening.result? : Happening → Option (Outlet × RawText)
  | .call _ | .log _ => none
  | .out text => some (.out, text)
  | .err text => some (.err, text)

/-- The results of a run, in the order in which they are written. -/
def results (trace : List Happening) : List (Outlet × RawText) :=
  trace.filterMap Happening.result?

/-- Two runs write the same results and end alike.  They may call the host and
write to the log as they please. -/
structure SameResults (x y : Run) : Prop where
  /-- The same results, in the same order. -/
  written : results x.trace = results y.trace
  /-- The same status, or the same lack of one. -/
  ending : x.ending = y.ending

theorem results_append (before after : List Happening) :
    results (before ++ after) = results before ++ results after := List.filterMap_append

theorem results_happenings (user : String) (path : Path) (s : Step) :
    results (happenings user path s) = [] := by
  cases s with
  | asks question => rfl
  | event e => rfl
  | effect effect =>
      cases effect with
      | call c => rfl
      | note n => rfl

/-- The results for one outlet, as one text. -/
def resultsAt (outlet : Outlet) (rs : List (Outlet × RawText)) : RawText :=
  ⟨rs.flatMap fun r => if r.1 = outlet then r.2.bytes else []⟩

theorem stdout_eq (trace : List Happening) : stdout trace = resultsAt .out (results trace) := by
  refine congrArg RawText.mk ?_
  induction trace with
  | nil => rfl
  | cons happening rest ih =>
      rw [List.flatMap_cons, ih]
      cases happening <;> rfl

theorem stderr_eq (trace : List Happening) : stderr trace = resultsAt .err (results trace) := by
  refine congrArg RawText.mk ?_
  induction trace with
  | nil => rfl
  | cons happening rest ih =>
      rw [List.flatMap_cons, ih]
      cases happening <;> rfl

/-! ## Parts of a run -/

theorem stdout_append (before after : List Happening) :
    stdout (before ++ after) = (stdout before).append (stdout after) :=
  congrArg RawText.mk List.flatMap_append

theorem stderr_append (before after : List Happening) :
    stderr (before ++ after) = (stderr before).append (stderr after) :=
  congrArg RawText.mk List.flatMap_append

theorem calls_append (before after : List Happening) :
    calls (before ++ after) = calls before ++ calls after := List.filterMap_append

theorem calls_happenings (user : String) (path : Path) (s : Step) :
    calls (happenings user path s) = s.call?.toList := by
  cases s with
  | asks question => rfl
  | event e => rfl
  | effect effect => cases effect <;> rfl

namespace SameResults

variable {x y z : Run}

theorem refl (x : Run) : SameResults x x := ⟨rfl, rfl⟩

theorem symm (h : SameResults x y) : SameResults y x := ⟨h.written.symm, h.ending.symm⟩

theorem trans (hxy : SameResults x y) (hyz : SameResults y z) : SameResults x z :=
  ⟨hxy.written.trans hyz.written, hxy.ending.trans hyz.ending⟩

theorem after {before other : List Happening} (hbefore : results before = results other)
    (h : SameResults x y) : SameResults (x.after before) (y.after other) := by
  refine ⟨?_, h.ending⟩
  rw [Traced.after_trace, Traced.after_trace, results_append, results_append, hbefore, h.written]

/-- The same texts reach both outputs. -/
theorem outputs (h : SameResults x y) :
    stdout x.trace = stdout y.trace ∧ stderr x.trace = stderr y.trace := by
  rw [stdout_eq, stdout_eq, stderr_eq, stderr_eq, h.written]
  exact ⟨rfl, rfl⟩

end SameResults

/-! ## One path -/

/-- What a run shows of its query about a path. -/
def courseShown (c : Collaborators) (user : String) (path : Path) : List Happening :=
  (Query.run c user path).trace.flatMap (happenings user path)

/-- What a run does after a query about `path`: it writes how the query ended, and
checks the rest of the paths. -/
def afterQuery (c : Collaborators) (user : String) (quiet : Bool) (channels : Channels)
    (status : Status) (path : Path) (rest : List Path) : Except Failure Verdict → Run
  | .error .aborted => .fail .queryBrokeOff
  | .error (.error e) =>
      let written := channels.err.writeAll (errorPieces e.pieces)
      (checkPaths c user quiet { channels with err := written.sink }
        (max status (.ofKind e.kind)) rest).after [.err written.accepted]
  | .ok verdict =>
      if quiet then checkPaths c user quiet channels (max status (.ofVerdict verdict)) rest
      else
        let written := channels.out.writeAll (verdictPieces path verdict)
        if written.complete then
          (checkPaths c user quiet { channels with out := written.sink }
            (max status (.ofVerdict verdict)) rest).after [.out written.accepted]
        else ⟨[.out written.accepted], .ok .systemFailure⟩

section Paths

variable (c c' : Collaborators) (user : String) (quiet : Bool)

theorem results_courseShown (path : Path) : results (courseShown c user path) = [] := by
  rw [results, courseShown, List.filterMap_flatMap]
  exact List.flatMap_eq_nil_iff.mpr fun s _ => results_happenings user path s

theorem stdout_courseShown (path : Path) : stdout (courseShown c user path) = ⟨[]⟩ := by
  rw [stdout_eq, results_courseShown]
  rfl

theorem stderr_courseShown (path : Path) : stderr (courseShown c user path) = ⟨[]⟩ := by
  rw [stderr_eq, results_courseShown]
  rfl

/-- A run makes the calls of its queries. -/
theorem calls_courseShown (path : Path) :
    calls (courseShown c user path) = (Query.run c user path).calls := by
  rw [calls, courseShown, List.filterMap_flatMap, Course.calls, List.filterMap_eq_flatMap_toList]
  exact congrArg (List.flatMap · _) (funext fun s => calls_happenings user path s)

/-- A run makes the query about the first path and goes on from its ending. -/
theorem checkPaths_cons (channels : Channels) (status : Status) (path : Path)
    (rest : List Path) :
    checkPaths c user quiet channels status (path :: rest) =
      (afterQuery c user quiet channels status path rest
        (Query.run c user path).ending).after (courseShown c user path) := by
  rw [checkPaths]
  split
  · next hending => simp [hending, afterQuery, courseShown, Traced.after, Traced.fail]
  · next e hending => simp [hending, afterQuery, courseShown, Traced.after]
  · next verdict hending =>
    rw [hending, afterQuery]
    split
    · rfl
    · dsimp only
      split <;> simp [courseShown, Traced.after]

/-- A run shows a query about one of the paths that ends differently with other
collaborators. -/
def Parts (paths : List Path) (x : Run) : Prop :=
  ∃ path ∈ paths, (Query.run c user path).ending ≠ (Query.run c' user path).ending ∧
    courseShown c user path <:+: x.trace

variable {c c' user quiet}

theorem Parts.after {paths : List Path} {x : Run} (before : List Happening)
    (h : Parts c c' user paths x) : Parts c c' user paths (x.after before) := by
  obtain ⟨p, hp, hdiffer, hshown⟩ := h
  exact ⟨p, hp, hdiffer, hshown.trans (List.suffix_append _ _).isInfix⟩

theorem Parts.cons (path : Path) {paths : List Path} {x : Run} (h : Parts c c' user paths x) :
    Parts c c' user (path :: paths) x := by
  obtain ⟨p, hp, hparts⟩ := h
  exact ⟨p, List.mem_cons_of_mem _ hp, hparts⟩

/-- Two runs go on alike from the same ending of a query, if they do so over the
rest of the paths. -/
theorem afterQuery_sameResults_or_parts {rest : List Path}
    (hrest : ∀ channels status,
      SameResults (checkPaths c user quiet channels status rest)
          (checkPaths c' user quiet channels status rest) ∨
        Parts c c' user rest (checkPaths c user quiet channels status rest))
    (channels : Channels) (status : Status) (path : Path) (ending : Except Failure Verdict) :
    SameResults (afterQuery c user quiet channels status path rest ending)
        (afterQuery c' user quiet channels status path rest ending) ∨
      Parts c c' user rest (afterQuery c user quiet channels status path rest ending) := by
  have hafter : ∀ before channels status,
      SameResults ((checkPaths c user quiet channels status rest).after before)
          ((checkPaths c' user quiet channels status rest).after before) ∨
        Parts c c' user rest ((checkPaths c user quiet channels status rest).after before) :=
    fun before channels status =>
      (hrest channels status).imp (SameResults.after rfl) (Parts.after before)
  match ending with
  | .error .aborted => exact .inl (SameResults.refl _)
  | .error (.error e) => exact hafter _ _ _
  | .ok verdict =>
      simp only [afterQuery]
      split
      · exact hafter [] _ _
      · split
        · exact hafter _ _ _
        · exact .inl (SameResults.refl _)

/-- **Two runs over collaborators of their own write the same results and end
alike, or they part over a query that ends differently.**  By induction on the
paths, over all channels and statuses that the paths before may leave. -/
theorem checkPaths_sameResults_or_parts (channels : Channels) (status : Status)
    (paths : List Path) :
    SameResults (checkPaths c user quiet channels status paths)
        (checkPaths c' user quiet channels status paths) ∨
      Parts c c' user paths (checkPaths c user quiet channels status paths) := by
  induction paths generalizing channels status with
  | nil => exact .inl (SameResults.refl _)
  | cons path rest ih =>
      rw [checkPaths_cons, checkPaths_cons]
      -- The first query may part the runs; if it does not, the rest of the paths may.
      by_cases hsame : (Query.run c user path).ending = (Query.run c' user path).ending
      · rw [← hsame]
        have hshown : results (courseShown c user path) = results (courseShown c' user path) := by
          rw [results_courseShown, results_courseShown]
        obtain hgo | hparts :=
          afterQuery_sameResults_or_parts ih channels status path (Query.run c user path).ending
        · exact .inl (hgo.after hshown)
        · exact .inr ((hparts.after _).cons path)
      · exact .inr ⟨path, List.mem_cons_self, hsame, (List.prefix_append _ _).isInfix⟩

end Paths

end ReadAccess.CommandLine
