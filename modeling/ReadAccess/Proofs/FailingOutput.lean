/-
  Runs on outputs that fail.

  As long as its verdicts are taken whole, a run does not notice what becomes of them
  (`exists_checkPaths_append`).  So on a standard output that fails it does what it would do on
  one that does not, up to the first line that cannot be written, and stops there.  On a
  standard error output that fails it goes on as if nothing had happened
  (`checkPaths_sameBesidesErrors`).
-/
import ReadAccess.Proofs.BreakingOff
import ReadAccess.Proofs.Writing

set_option autoImplicit false

namespace ReadAccess.CommandLine

open Text (RawText)

/-! ## What a run writes to the standard output -/

/-- What a run writes about a path, in the stretches in which it is written. -/
def stretchesOf (quiet : Bool) (path : Path) : Except Failure Verdict → List String
  | .ok verdict => if quiet then [] else verdictPieces path verdict
  | .error _ => []

/-- What it writes about several paths. -/
def stretches (c : Collaborators) (user : String) (quiet : Bool) (paths : List Path) :
    List String :=
  paths.flatMap fun path => stretchesOf quiet path (Query.run c user path).ending

/-- The same channels, but with a standard output that never fails. -/
def Channels.unfailing (channels : Channels) : Channels := ⟨.endless, channels.err, false⟩

section Paths

variable (c : Collaborators) (user : String) (quiet : Bool)

theorem stretches_cons (path : Path) (rest : List Path) :
    stretches c user quiet (path :: rest) =
      stretchesOf quiet path (Query.run c user path).ending ++ stretches c user quiet rest :=
  List.flatMap_cons

theorem stretches_append (ps qs : List Path) :
    stretches c user quiet (ps ++ qs) = stretches c user quiet ps ++ stretches c user quiet qs :=
  List.flatMap_append

/-- The stretches make up the lines of the verdicts. -/
theorem join_stretches (paths : List Path) :
    String.join (stretches c user quiet paths) = String.join (verdictLines c user quiet paths) := by
  induction paths with
  | nil => rfl
  | cons path rest ih =>
      rw [stretches_cons, verdictLines_cons, String.join_append, String.join_append, ih]
      congr 1
      cases (Query.run c user path).ending with
      | error failure => rfl
      | ok v =>
          cases quiet with
          | true => rfl
          | false =>
              show String.join (verdictPieces path v) = String.join [verdictLine path v]
              rw [join_verdictPieces]
              simp

/-- On outputs that never fail, a run writes all of them. -/
theorem stdout_unfailing (err : Sink) (before : Status) {paths : List Path}
    (hunbroken : ∀ path ∈ paths, (Query.run c user path).ending ≠ .error .aborted) :
    stdout (checkPaths c user quiet ⟨.endless, err, false⟩ before paths).trace =
      .ofString (String.join (stretches c user quiet paths)) := by
  rw [(checkPaths_composed err before hunbroken).out, join_stretches]

/-! ## Lines that are written whole -/

/-- What a run shows about a path, and its status from there on, do not depend on an output
that takes its line. -/
theorem exists_afterQuery_of_complete (err : Sink) (before : Status) (path : Path)
    {ending : Except Failure Verdict} (hunbroken : ending ≠ .error .aborted) :
    ∃ later shown, ∀ out flushFails rest,
      (Sink.writeAll out (stretchesOf quiet path ending)).complete = true →
        afterQuery c user quiet ⟨out, err, flushFails⟩ before path rest ending =
          (checkPaths c user quiet ⟨(out.writeAll (stretchesOf quiet path ending)).sink,
            err.left (errorPieces? ending).toList, flushFails⟩ later rest).after shown := by
  match ending with
  | .error .aborted => exact absurd rfl hunbroken
  | .error (.error e) =>
      exact ⟨max before (.ofKind e.kind), [.err (err.writeAll (errorPieces e.pieces)).accepted],
        fun out flushFails rest _ => rfl⟩
  | .ok v =>
      cases quiet with
      | true => exact ⟨max before (.ofVerdict v), [], fun out flushFails rest _ => rfl⟩
      | false =>
          refine ⟨max before (.ofVerdict v),
            [.out (.ofString (String.join (verdictPieces path v)))],
            fun out flushFails rest hwhole => ?_⟩
          have htaken := (out.writeAll_takes (verdictPieces path v)).complete_iff.mp hwhole
          rw [afterQuery, ← htaken]
          exact if_pos hwhole

/-- **As long as its lines are written whole, a run does not depend on its output.**  By
induction on the paths whose lines are, over every status and all channels. -/
theorem exists_checkPaths_append (err : Sink) (before : Status) {paths : List Path}
    (hunbroken : ∀ path ∈ paths, (Query.run c user path).ending ≠ .error .aborted) :
    ∃ later shown, ∀ out flushFails rest,
      (Sink.writeAll out (stretches c user quiet paths)).complete = true →
        checkPaths c user quiet ⟨out, err, flushFails⟩ before (paths ++ rest) =
          (checkPaths c user quiet ⟨(out.writeAll (stretches c user quiet paths)).sink,
            err.left (errorLines c user paths), flushFails⟩ later rest).after shown := by
  induction paths generalizing err before with
  | nil => exact ⟨before, [], fun out flushFails rest _ => rfl⟩
  | cons path more ih =>
      obtain ⟨hpath, hmore⟩ := List.forall_mem_cons.mp hunbroken
      obtain ⟨next, line, hline⟩ := exists_afterQuery_of_complete c user quiet err before path hpath
      obtain ⟨later, shown, hlater⟩ :=
        ih (err.left (errorPieces? (Query.run c user path).ending).toList) next hmore
      refine ⟨later, courseShown c user path ++ (line ++ shown),
        fun out flushFails rest hwhole => ?_⟩
      rw [stretches_cons] at hwhole ⊢
      obtain ⟨hfirst, hsecond⟩ := Sink.complete_writeAll_append_iff.mp hwhole
      rw [List.cons_append, checkPaths_cons, hline out flushFails (more ++ rest) hfirst,
        hlater _ flushFails rest hsecond, Sink.sink_writeAll_append hfirst, errorLines_cons,
        Sink.left_append, Traced.after_after, Traced.after_after, List.append_assoc]

/-! ## The first line that cannot be written -/

variable {c user quiet}

/-- If a write fails, it is in the line about one of the paths. -/
theorem exists_cut {out : Sink} {paths : List Path}
    (hcut : (out.writeAll (stretches c user quiet paths)).complete = false) :
    ∃ before path after, paths = before ++ path :: after ∧
      (out.writeAll (stretches c user quiet before)).complete = true ∧
      ((out.writeAll (stretches c user quiet before)).sink.writeAll
        (stretchesOf quiet path (Query.run c user path).ending)).complete = false := by
  induction paths generalizing out with
  | nil => cases hcut
  | cons path rest ih =>
      let line := stretchesOf quiet path (Query.run c user path).ending
      cases hpath : (out.writeAll line).complete with
      | false => exact ⟨[], path, rest, rfl, rfl, hpath⟩
      | true =>
          rw [stretches_cons, Sink.writeAll_append, if_pos hpath] at hcut
          obtain ⟨before, target, after, rfl, hbefore, htarget⟩ := ih hcut
          refine ⟨path :: before, target, after, rfl, ?_, ?_⟩
          · rw [stretches_cons]
            exact Sink.complete_writeAll_append_iff.mpr ⟨hpath, hbefore⟩
          · rw [stretches_cons, Sink.sink_writeAll_append hpath]
            exact htarget

/-- Only the line of a verdict can fail. -/
theorem exists_verdict_of_cut {out : Sink} {path : Path} {ending : Except Failure Verdict}
    (hcut : (out.writeAll (stretchesOf quiet path ending)).complete = false) :
    quiet = false ∧ ∃ v, ending = .ok v := by
  match ending with
  | .error failure => cases hcut
  | .ok v =>
      cases quiet with
      | true => cases hcut
      | false => exact ⟨rfl, v, rfl⟩

/-! ## What is written -/

/-- One run writes these stretches as far as its output takes them, and another one writes all
of them. -/
structure WritesAsTaken (out : Sink) (stretches : List String) (x y : Run) : Prop where
  whole : stdout y.trace = .ofString (String.join stretches)
  taken : stdout x.trace = (out.writeAll stretches).accepted
  isPrefix : (stdout x.trace).bytes <+: (stdout y.trace).bytes
  /-- No write fails exactly if both write the same. -/
  complete_iff : (out.writeAll stretches).complete = true ↔ stdout x.trace = stdout y.trace
  /-- An output that takes some number of bytes takes the first ones. -/
  limited : ∀ n, out = .bytes n →
    (stdout x.trace).bytes = (stdout y.trace).bytes.take n ∧
      ((out.writeAll stretches).complete = true ↔ (stdout y.trace).bytes.length ≤ n)

theorem WritesAsTaken.of_stdout {out : Sink} {stretches : List String} {x y : Run}
    (hwhole : stdout y.trace = .ofString (String.join stretches))
    (htaken : stdout x.trace = (out.writeAll stretches).accepted) :
    WritesAsTaken out stretches x y := by
  obtain ⟨hpart, hcomplete⟩ := out.writeAll_takes stretches
  refine ⟨hwhole, htaken, ?_, ?_, ?_⟩
  · rw [hwhole, htaken]
    exact hpart
  · rw [hwhole, htaken]
    exact hcomplete
  · rintro n rfl
    rw [hwhole, htaken, Sink.writeAll_bytes]
    exact ⟨rfl, decide_eq_true_iff⟩

/-! ## Where a run stops -/

/-- A run stops at a path, because the line about it cannot be written.  The lines in front of
it are written whole, and up to its last text the run shows what a run over the path and those
before it shows on outputs that never fail. -/
structure StopsAt (c : Collaborators) (user : String) (quiet : Bool) (channels : Channels)
    (before : List Path) (path : Path) (x : Run) : Prop where
  told : (channels.out.writeAll (stretches c user quiet before)).complete = true
  cut : (channels.out.writeAll (stretches c user quiet (before ++ [path]))).complete = false
  trace : ∃ shown v part, (Query.run c user path).ending = .ok v ∧
    (checkPaths c user quiet channels.unfailing .allowed (before ++ [path])).trace =
      shown ++ [.out (.ofString (verdictLine path v))] ∧
    x.trace = shown ++ [.out part]
  calls : calls x.trace = (before ++ [path]).flatMap fun p => (Query.run c user p).calls
  err : stderr x.trace = channels.err.takes (errorLines c user (before ++ [path]))
  ending : x.ending = .ok .systemFailure

/-- How a run ends, in comparison to the one on a standard output that never fails. -/
structure StopsCleanly (c : Collaborators) (user : String) (quiet : Bool) (channels : Channels)
    (paths : List Path) (x y : Run) : Prop where
  writes : WritesAsTaken channels.out (stretches c user quiet paths) x y
  /-- If a write fails, the run stops at the path whose line could not be written. -/
  stops : (channels.out.writeAll (stretches c user quiet paths)).complete = false →
    ∃ before path after, paths = before ++ path :: after ∧
      StopsAt c user quiet channels before path x
  /-- If none fails, all paths are checked, and only flushing may still fail. -/
  completes : (channels.out.writeAll (stretches c user quiet paths)).complete = true →
    x.trace = y.trace ∧
      (calls x.trace = paths.flatMap fun path => (Query.run c user path).calls) ∧
      stderr x.trace = channels.err.takes (errorLines c user paths) ∧
      ∃ status, y.ending = .ok status ∧
        x.ending = .ok (if channels.flushFails then .systemFailure else status)

/-- If no write fails, a run shows what it shows on outputs that never fail, and only flushing
makes a difference to its status. -/
theorem completes_of_complete {channels : Channels} {paths : List Path}
    (hunbroken : ∀ path ∈ paths, (Query.run c user path).ending ≠ .error .aborted)
    (hwhole : (channels.out.writeAll (stretches c user quiet paths)).complete = true) :
    (checkPaths c user quiet channels .allowed paths).trace =
        (checkPaths c user quiet channels.unfailing .allowed paths).trace ∧
      ∃ status, (checkPaths c user quiet channels.unfailing .allowed paths).ending = .ok status ∧
        (checkPaths c user quiet channels .allowed paths).ending =
          .ok (if channels.flushFails then .systemFailure else status) := by
  obtain ⟨later, shown, hshown⟩ :=
    exists_checkPaths_append c user quiet channels.err .allowed hunbroken
  have hx := hshown channels.out channels.flushFails [] hwhole
  have hy := hshown .endless false [] (by rw [Sink.writeAll_endless])
  rw [List.append_nil] at hx hy
  have hlater : later ≤ Status.systemFailure := by
    refine (checkPaths_status c user quiet channels.unfailing
      (Status.isOfAccepted_ofVerdict .allowed) paths ?_).2.2
    exact congrArg Traced.ending hy
  refine ⟨(congrArg Traced.trace hx).trans (congrArg Traced.trace hy).symm, later,
    congrArg Traced.ending hy, (congrArg Traced.ending hx).trans (congrArg Except.ok ?_)⟩
  unfold closingStatus
  split
  · exact Nat.max_eq_right hlater
  · rfl

/-- If the line about a path fails, the run is over with what was taken of it. -/
theorem checkPaths_of_cut {channels : Channels} {before : List Path} {path : Path}
    (after : List Path)
    (hunbroken : ∀ p ∈ before, (Query.run c user p).ending ≠ .error .aborted)
    (htold : (channels.out.writeAll (stretches c user quiet before)).complete = true)
    (hcut : ((channels.out.writeAll (stretches c user quiet before)).sink.writeAll
      (stretchesOf quiet path (Query.run c user path).ending)).complete = false) :
    ∃ shown v, (Query.run c user path).ending = .ok v ∧
      stdout shown = (channels.out.writeAll (stretches c user quiet before)).accepted ∧
      (checkPaths c user quiet channels.unfailing .allowed (before ++ [path])).trace =
        shown ++ [.out (.ofString (verdictLine path v))] ∧
      checkPaths c user quiet channels .allowed (before ++ path :: after) =
        ⟨shown ++ [.out ((channels.out.writeAll (stretches c user quiet before)).sink.writeAll
          (stretchesOf quiet path (Query.run c user path).ending)).accepted],
          .ok .systemFailure⟩ := by
  obtain ⟨hquiet, v, hending⟩ := exists_verdict_of_cut hcut
  subst hquiet
  rw [hending] at hcut ⊢
  obtain ⟨later, shown, hshown⟩ :=
    exists_checkPaths_append c user false channels.err .allowed hunbroken
  have hendless : ∀ pieces, (Sink.writeAll .endless pieces).complete = true := fun pieces => by
    rw [Sink.writeAll_endless]
  have hx := hshown channels.out channels.flushFails (path :: after) htold
  have hz := hshown .endless false [path] (hendless _)
  have hbefore := hshown .endless false [] (hendless _)
  rw [List.append_nil] at hbefore
  rw [checkPaths_cons, hending, afterQuery, Traced.after_after] at hx hz
  refine ⟨shown ++ courseShown c user path, v, rfl, ?_, ?_, ?_⟩
  · have htrace : (checkPaths c user false ⟨.endless, channels.err, false⟩ .allowed before).trace =
        shown ++ [] := congrArg Traced.trace hbefore
    have hlines := stdout_unfailing c user false channels.err .allowed hunbroken
    rw [htrace, List.append_nil] at hlines
    rw [stdout_append, stdout_courseShown, hlines,
      (channels.out.writeAll_takes _).complete_iff.mp htold]
    simp [RawText.append]
  · simp only [Sink.writeAll_endless, join_verdictPieces] at hz
    exact congrArg Traced.trace hz
  · have hline : ((channels.out.writeAll (stretches c user false before)).sink.writeAll
        (verdictPieces path v)).complete = false := hcut
    simp only [hline, Bool.false_eq_true, if_false] at hx
    exact hx

section Concat

variable (shown : List Happening) (text : RawText)

theorem stdout_concat_out : stdout (shown ++ [.out text]) = (stdout shown).append text := by
  rw [stdout_append]
  simp [stdout, RawText.append]

theorem stderr_concat_out : stderr (shown ++ [.out text]) = stderr shown := by
  rw [stderr_append]
  simp [stderr, RawText.append]

theorem calls_concat_out : calls (shown ++ [.out text]) = calls shown := by
  rw [calls_append]
  exact List.append_nil _

end Concat

/-- On an output that fails, a run stops at the first path whose line cannot be written, and
what it wrote is what the output took. -/
theorem stopsAt_of_cut {channels : Channels} {before after : List Path} {path : Path}
    (hunbroken : ∀ p ∈ before ++ path :: after, (Query.run c user p).ending ≠ .error .aborted)
    (htold : (channels.out.writeAll (stretches c user quiet before)).complete = true)
    (hcut : ((channels.out.writeAll (stretches c user quiet before)).sink.writeAll
      (stretchesOf quiet path (Query.run c user path).ending)).complete = false) :
    StopsAt c user quiet channels before path
        (checkPaths c user quiet channels .allowed (before ++ path :: after)) ∧
      stdout (checkPaths c user quiet channels .allowed (before ++ path :: after)).trace =
        (channels.out.writeAll (stretches c user quiet (before ++ path :: after))).accepted := by
  have hupTo : ∀ p ∈ before ++ [path], (Query.run c user p).ending ≠ .error .aborted := by
    intro p hp
    rw [List.append_cons] at hunbroken
    exact hunbroken p (List.mem_append_left _ hp)
  obtain ⟨shown, v, hending, hbefore, hunfailing, hx⟩ :=
    checkPaths_of_cut after (fun p hp => hupTo p (List.mem_append_left _ hp)) htold hcut
  have hcomposed : Composed c user quiet channels.err .allowed (before ++ [path])
      (checkPaths c user quiet channels.unfailing .allowed (before ++ [path])) :=
    checkPaths_composed channels.err .allowed hupTo
  have hcalls := hcomposed.calls
  have herr := hcomposed.err
  rw [hunfailing, calls_concat_out] at hcalls
  rw [hunfailing, stderr_concat_out] at herr
  -- Behind the line that fails nothing is written.
  have hline := Sink.writeAll_append_of_cut hcut
  rw [hx]
  refine ⟨⟨htold, ?_, ⟨shown, v, _, hending, hunfailing, rfl⟩, ?_, ?_, rfl⟩, ?_⟩
  · rw [stretches_append, stretches_cons, Sink.writeAll_append, if_pos htold, hline]
    exact hcut
  · rw [calls_concat_out, hcalls]
  · rw [stderr_concat_out, herr]
  · rw [stdout_concat_out, hbefore, stretches_append, stretches_cons, Sink.writeAll_append,
      if_pos htold, hline]

/-- **A run on an output that fails stops cleanly.** -/
theorem checkPaths_stopsCleanly (channels : Channels) {paths : List Path}
    (hunbroken : ∀ path ∈ paths, (Query.run c user path).ending ≠ .error .aborted) :
    StopsCleanly c user quiet channels paths (checkPaths c user quiet channels .allowed paths)
      (checkPaths c user quiet channels.unfailing .allowed paths) := by
  have hwhole := stdout_unfailing c user quiet channels.err .allowed hunbroken
  have hcomposed : Composed c user quiet channels.err .allowed paths
      (checkPaths c user quiet channels.unfailing .allowed paths) :=
    checkPaths_composed channels.err .allowed hunbroken
  cases hwritten : (channels.out.writeAll (stretches c user quiet paths)).complete with
  | true =>
      obtain ⟨htrace, status, hstatus, hending⟩ := completes_of_complete hunbroken hwritten
      refine ⟨.of_stdout hwhole ?_, fun hcut => ?_,
        fun _ => ⟨htrace, ?_, ?_, status, hstatus, hending⟩⟩
      · rw [htrace, (channels.out.writeAll_takes _).complete_iff.mp hwritten]
        exact hwhole
      · rw [hwritten] at hcut
        cases hcut
      · rw [htrace]
        exact hcomposed.calls
      · rw [htrace]
        exact hcomposed.err
  | false =>
      obtain ⟨before, path, after, rfl, htold, hcut⟩ := exists_cut hwritten
      obtain ⟨hstops, hstdout⟩ := stopsAt_of_cut hunbroken htold hcut
      refine ⟨.of_stdout hwhole hstdout, fun _ => ⟨before, path, after, rfl, hstops⟩,
        fun hcomplete => ?_⟩
      rw [hwritten] at hcomplete
      cases hcomplete

end Paths

/-! ## Errors that cannot be written -/

/-- A happening, whatever became of the text of an error. -/
def Happening.besidesError : Happening → Happening
  | .err _ => .err ⟨[]⟩
  | other => other

/-- Two runs end alike, and show the same but for what became of the texts of errors. -/
structure SameBesidesErrors (x y : Run) : Prop where
  trace : x.trace.map Happening.besidesError = y.trace.map Happening.besidesError
  ending : x.ending = y.ending

namespace SameBesidesErrors

variable {x y : Run}

theorem refl (x : Run) : SameBesidesErrors x x := ⟨rfl, rfl⟩

theorem after (shown : List Happening) (h : SameBesidesErrors x y) :
    SameBesidesErrors (x.after shown) (y.after shown) := by
  refine ⟨?_, h.ending⟩
  rw [Traced.after_trace, Traced.after_trace, List.map_append, List.map_append, h.trace]

theorem after_err (text other : RawText) (h : SameBesidesErrors x y) :
    SameBesidesErrors (x.after [.err text]) (y.after [.err other]) :=
  ⟨congrArg (_ :: ·) h.trace, h.ending⟩

theorem stdout_besidesError (trace : List Happening) :
    stdout (trace.map Happening.besidesError) = stdout trace := by
  refine congrArg RawText.mk ?_
  rw [List.flatMap_map]
  refine congrArg (List.flatMap · trace) (funext fun happening => ?_)
  cases happening <;> rfl

theorem stdout_eq (h : SameBesidesErrors x y) : stdout x.trace = stdout y.trace := by
  rw [← stdout_besidesError, h.trace, stdout_besidesError]

theorem calls_besidesError (trace : List Happening) :
    calls (trace.map Happening.besidesError) = calls trace := by
  rw [calls, List.filterMap_map]
  refine congrArg (List.filterMap · trace) (funext fun happening => ?_)
  cases happening <;> rfl

theorem calls_eq (h : SameBesidesErrors x y) : calls x.trace = calls y.trace := by
  rw [← calls_besidesError, h.trace, calls_besidesError]

end SameBesidesErrors

/-- **A run goes on whatever becomes of its errors.**  By induction on the paths, over all
channels and statuses. -/
theorem checkPaths_sameBesidesErrors (c : Collaborators) (user : String) (quiet : Bool)
    (channels : Channels) (err : Sink) (before : Status) (paths : List Path) :
    SameBesidesErrors (checkPaths c user quiet channels before paths)
      (checkPaths c user quiet { channels with err := err } before paths) := by
  induction paths generalizing channels err before with
  | nil => exact ⟨rfl, rfl⟩
  | cons path rest ih =>
      rw [checkPaths_cons, checkPaths_cons]
      refine .after _ ?_
      match (Query.run c user path).ending with
      | .error .aborted => exact .refl _
      | .error (.error e) =>
          exact .after_err _ _ (ih { channels with err := (channels.err.writeAll _).sink } _ _)
      | .ok v =>
          simp only [afterQuery]
          split
          · exact ih channels err _
          · split
            · exact .after _ (ih { channels with out := (channels.out.writeAll _).sink } err _)
            · exact .refl _

theorem run_sameBesidesErrors (h : Host) (channels : Channels) (err : Sink)
    (arguments : List RawText) :
    SameBesidesErrors (run h channels arguments)
      (run h { channels with err := err } arguments) := by
  cases harguments : Request.ofArguments arguments with
  | error e =>
      rw [run_of_rejected h channels harguments, run_of_rejected h _ harguments]
      exact ⟨rfl, rfl⟩
  | ok r =>
      rw [run_of_accepted h channels harguments, run_of_accepted h _ harguments]
      unfold carryOut
      split
      · exact .refl _
      · split
        · exact .refl _
        · split
          · exact ⟨rfl, rfl⟩
          · exact checkPaths_sameBesidesErrors _ _ _ _ _ _ _

/-! ## Whole runs -/

/-- What a request for information has written. -/
def informationPieces (r : Request) : List String :=
  if r.help then [helpText] else versionPieces

theorem carryOut_of_information (h : Host) (channels : Channels) {r : Request}
    (hinformation : r.isInformation = true) :
    carryOut h channels r = inform channels (informationPieces r) := by
  unfold carryOut informationPieces
  cases hhelp : r.help with
  | true => rfl
  | false =>
      have hversion : r.version = true := by simpa [Request.isInformation, hhelp] using hinformation
      simp [hversion]

theorem inform_writesAsTaken (channels : Channels) (pieces : List String) :
    WritesAsTaken channels.out pieces (inform channels pieces)
      (inform channels.unfailing pieces) := by
  refine .of_stdout ?_ (by simp [inform, stdout])
  rw [inform, Channels.unfailing]
  simp [stdout, Sink.writeAll_endless]

/-- **A standard output that fails stops a run cleanly, and a standard error output that fails
does not stop it.**  What is written is what the output took, a prefix of what the run writes
when nothing fails.  If a write fails, the run ends with `Status.systemFailure` at the path
whose line could not be written, and shows up to there what it shows when nothing fails.
Otherwise it checks all paths, and flushing alone may raise the status.  Information is written
in the same way, but not flushed. -/
theorem failingOutputs_stop_cleanly (h : Host) (channels : Channels) (arguments : List RawText) :
    (∀ r, Request.ofArguments arguments = .ok r → r.isInformation = false → r.policy.Allocatable →
        r.paths ≠ [] ∧ ∃ user, r.user = some user ∧
          StopsCleanly (Live.collaborators h r.policy) user r.quiet channels r.paths
            (run h channels arguments) (run h channels.unfailing arguments)) ∧
      (∀ r, Request.ofArguments arguments = .ok r → r.isInformation = true →
        WritesAsTaken channels.out (informationPieces r) (run h channels arguments)
            (run h channels.unfailing arguments) ∧
          calls (run h channels arguments).trace = [] ∧
          stderr (run h channels arguments).trace = ⟨[]⟩ ∧
          (run h channels.unfailing arguments).ending = .ok .allowed ∧
          (run h channels arguments).ending = .ok
            (if (channels.out.writeAll (informationPieces r)).complete then .allowed
              else .systemFailure)) ∧
      ∀ err, SameBesidesErrors (run h channels arguments)
          (run h { channels with err := err } arguments) ∧
        stdout (run h channels arguments).trace =
          stdout (run h { channels with err := err } arguments).trace ∧
        calls (run h channels arguments).trace =
          calls (run h { channels with err := err } arguments).trace := by
  refine ⟨?_, ?_, fun err => ?_⟩
  · intro r haccepted hpaths hfirst
    obtain ⟨⟨user, huser⟩, hnonempty⟩ := Request.ofArguments_operands haccepted hpaths
    refine ⟨hnonempty, user, huser, ?_⟩
    have hasks : Asks arguments r user := ⟨haccepted, hpaths, huser⟩
    rw [hasks.run_eq, hasks.run_eq]
    exact checkPaths_stopsCleanly channels fun path _ =>
      Live.run_ending_ne_aborted h user path hfirst
  · intro r haccepted hinformation
    rw [run_of_accepted h channels haccepted, run_of_accepted h channels.unfailing haccepted,
      carryOut_of_information h channels hinformation,
      carryOut_of_information h channels.unfailing hinformation]
    refine ⟨inform_writesAsTaken channels _, rfl, rfl, ?_, rfl⟩
    rw [inform, Channels.unfailing]
    simp [Sink.writeAll_endless]
  · have hsame := run_sameBesidesErrors h channels err arguments
    exact ⟨hsame, hsame.stdout_eq, hsame.calls_eq⟩

/-- The run in which eve's paths are checked, on these outputs. -/
def eveAsksOn (channels : Channels) : Run :=
  run openAndSealed channels (["permcheck", "eve", "/sealed", "/none", "/open"].map .ofString)

/-- An output that breaks in the middle of the second line, one that cannot be flushed, and
errors that cannot be written. -/
theorem failingOutputs_stop_cleanly_openAndSealed :
    stdout (eveAsksOn ⟨.bytes 20, .endless, false⟩).trace = .ofString "denied: /sealed\nallo" ∧
      (eveAsksOn ⟨.bytes 20, .endless, false⟩).ending = .ok .systemFailure ∧
      stdout (eveAsksOn ⟨.bytes 31, .endless, true⟩).trace =
        .ofString "denied: /sealed\nallowed: /open\n" ∧
      (eveAsksOn ⟨.bytes 31, .endless, true⟩).ending = .ok .systemFailure ∧
      SameBesidesErrors (eveAsksOn ⟨.bytes 20, .endless, false⟩)
        (eveAsksOn ⟨.bytes 20, .bytes 9, false⟩) := by
  let c := Live.collaborators openAndSealed .standard
  let paths : List Path := ["/sealed", "/none", "/open"].map .ofString
  let r : Request := ⟨false, false, .standard, false, .standard, some "eve", paths⟩
  have haccepted : Request.ofArguments
      (["permcheck", "eve", "/sealed", "/none", "/open"].map .ofString) = .ok r := rfl
  have hverdicts : verdictLines c "eve" false paths =
      ["denied: /sealed\n", "allowed: /open\n"] := by
    decide +kernel
  have hcleanly : ∀ channels, StopsCleanly c "eve" false channels paths (eveAsksOn channels)
      (eveAsksOn channels.unfailing) := by
    intro channels
    obtain ⟨hstops, -, -⟩ := failingOutputs_stop_cleanly openAndSealed channels
      (["permcheck", "eve", "/sealed", "/none", "/open"].map .ofString)
    obtain ⟨-, user, huser, hcleanly⟩ := hstops r haccepted rfl (by decide)
    obtain rfl : "eve" = user := Option.some.inj huser
    exact hcleanly
  have hwhole : ∀ channels, (stdout (eveAsksOn (Channels.unfailing channels)).trace) =
      .ofString "denied: /sealed\nallowed: /open\n" := by
    intro channels
    rw [(hcleanly channels).writes.whole, join_stretches, hverdicts]
    rfl
  obtain ⟨hpart, hcut⟩ := (hcleanly ⟨.bytes 20, .endless, false⟩).writes.limited 20 rfl
  obtain ⟨hall, hfits⟩ := (hcleanly ⟨.bytes 31, .endless, true⟩).writes.limited 31 rfl
  rw [hwhole] at hpart hcut hall hfits
  refine ⟨congrArg RawText.mk (hpart.trans (by decide)), ?_,
    congrArg RawText.mk (hall.trans (by decide)), ?_, ?_⟩
  · obtain ⟨before, path, after, -, hstops⟩ :=
      (hcleanly _).stops (Bool.eq_false_iff.mpr (mt hcut.mp (by decide)))
    exact hstops.ending
  · obtain ⟨-, -, -, status, -, hending⟩ := (hcleanly _).completes (hfits.mpr (by decide))
    exact hending
  · exact ((failingOutputs_stop_cleanly openAndSealed ⟨.bytes 20, .endless, false⟩
      (["permcheck", "eve", "/sealed", "/none", "/open"].map .ofString)).2.2 (.bytes 9)).1

end ReadAccess.CommandLine
