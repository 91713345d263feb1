/-
  Runs of the program as compositions of checks.

  A run checks one path after the other and carries nothing on but the greatest status
  so far.  So if nothing stops it, it writes and calls what the checks of its paths do,
  in order, and its status is the greatest of theirs (`CommandLine.run_composes`).
-/
import ReadAccess.Proofs.Decision
import ReadAccess.Proofs.Retries
import ReadAccess.Proofs.RunResults
import ReadAccess.Proofs.Statuses

set_option autoImplicit false

namespace ReadAccess

open Text (RawText)

/-! ## Queries of a host that do not break off -/

namespace Live

variable (h : Host) {policy : Groups.Policy} (user : String) (path : Path)

theorem resolveUser_ne_aborted : (resolveUser h user).ending ≠ .error .aborted := by
  unfold resolveUser
  split
  · exact nofun
  · split <;> exact nofun

theorem probe_ne_aborted : (probe h path).ending ≠ .error .aborted := by
  unfold probe
  split
  · exact nofun
  · split <;> exact nofun

theorem loadAcl_ne_aborted (m : Metadata) : (loadAcl h path m).ending ≠ .error .aborted := by
  rw [loadAcl, Traced.after_ending]
  unfold loadOf
  split
  · split <;> exact nofun
  · split
    · exact nofun
    · split <;> exact nofun

/-- A query breaks off only if the first group buffer is larger than any allocation. -/
theorem run_ending_ne_aborted (hfirst : policy.Allocatable) :
    (Query.run (collaborators h policy) user path).ending ≠ .error .aborted :=
  Query.run_ending_ne_aborted (resolveUser_ne_aborted h user) (probe_ne_aborted h path)
    (loadAcl_ne_aborted h path) (resolveGroups_ne_aborted h hfirst user)

end Live

namespace CommandLine

/-! ## Lines as texts -/

/-- The line for a verdict, as one text. -/
def verdictLine (path : Path) (verdict : Verdict) : String :=
  verdict.text ++ ": " ++ path.shown ++ "\n"

/-- The line for an error, as one text. -/
def errorLine (e : AccessError) : String := programName ++ ": error: " ++ e.message ++ "\n"

theorem join_verdictPieces (path : Path) (verdict : Verdict) :
    String.join (verdictPieces path verdict) = verdictLine path verdict := by
  simp [verdictPieces, verdictLine, RawText.shown, String.join_cons, String.append_assoc]

theorem join_errorPieces (e : AccessError) :
    String.join (errorPieces e.pieces) = errorLine e := by
  simp [errorPieces, errorLine, AccessError.message, String.join_cons, String.append_assoc]

/-- The line that a query adds to the standard output. -/
def verdictLine? (quiet : Bool) (path : Path) : Except Failure Verdict → Option String
  | .ok verdict => if quiet then none else some (verdictLine path verdict)
  | .error _ => none

/-- The line that a query adds to the standard error output. -/
def errorLine? : Except Failure Verdict → Option String
  | .error (.error e) => some (errorLine e)
  | .error .aborted => none
  | .ok _ => none

/-- The same line in the stretches in which it is written. -/
def errorPieces? : Except Failure Verdict → Option (List String)
  | .error (.error e) => some (errorPieces e.pieces)
  | .error .aborted => none
  | .ok _ => none

/-- The lines that the queries about the paths add to the standard output. -/
def verdictLines (c : Collaborators) (user : String) (quiet : Bool) (paths : List Path) :
    List String :=
  paths.filterMap fun path => verdictLine? quiet path (Query.run c user path).ending

/-- The lines that they add to the standard error output. -/
def errorLines (c : Collaborators) (user : String) (paths : List Path) : List (List String) :=
  paths.filterMap fun path => errorPieces? (Query.run c user path).ending

theorem verdictLines_cons (c : Collaborators) (user : String) (quiet : Bool) (path : Path)
    (rest : List Path) :
    verdictLines c user quiet (path :: rest) =
      (verdictLine? quiet path (Query.run c user path).ending).toList ++
        verdictLines c user quiet rest := by
  unfold verdictLines
  rw [List.filterMap_cons]
  split <;> simp [*]

theorem errorLines_cons (c : Collaborators) (user : String) (path : Path) (rest : List Path) :
    errorLines c user (path :: rest) =
      (errorPieces? (Query.run c user path).ending).toList ++ errorLines c user rest := by
  unfold errorLines
  rw [List.filterMap_cons]
  split <;> simp [*]

theorem map_join_errorPieces? (ending : Except Failure Verdict) :
    (errorPieces? ending).map String.join = errorLine? ending := by
  match ending with
  | .ok verdict => rfl
  | .error .aborted => rfl
  | .error (.error e) => exact congrArg some (join_errorPieces e)

/-! ## Sinks that are written to line by line -/

namespace Sink

/-- What a sink takes of several lines, each of them written as far as it goes. -/
def takes (s : Sink) : List (List String) → RawText
  | [] => ⟨[]⟩
  | line :: rest => (s.writeAll line).accepted.append ((s.writeAll line).sink.takes rest)

/-- The sink once several lines are written to it. -/
def left (s : Sink) : List (List String) → Sink
  | [] => s
  | line :: rest => (s.writeAll line).sink.left rest

theorem takes_append (s : Sink) (first second : List (List String)) :
    s.takes (first ++ second) = (s.takes first).append ((s.left first).takes second) := by
  induction first generalizing s with
  | nil => rfl
  | cons line rest ih =>
      rw [List.cons_append, takes, ih, takes, left]
      simp only [RawText.append, List.append_assoc]

theorem left_append (s : Sink) (first second : List (List String)) :
    s.left (first ++ second) = (s.left first).left second := by
  induction first generalizing s with
  | nil => rfl
  | cons line rest ih => exact ih _

theorem takes_endless (lines : List (List String)) :
    endless.takes lines = RawText.ofString (String.join (lines.map String.join)) := by
  induction lines with
  | nil => rfl
  | cons line rest ih =>
      rw [takes, writeAll_endless, ih, List.map_cons, String.join_cons, RawText.ofString_append]

theorem left_endless (lines : List (List String)) : endless.left lines = .endless := by
  induction lines with
  | nil => rfl
  | cons line rest ih => rw [left, writeAll_endless, ih]

end Sink

/-! ## One more path

A run that checks one more path shows the course of its query, then what it writes about
it, and then what it did without the path. -/

section Paths

variable {c : Collaborators} {user : String} {quiet : Bool}

section OnePath

variable (path : Path) (written : List Happening) (x : Run)

theorem stdout_checked :
    stdout ((x.after written).after (courseShown c user path)).trace =
      (stdout written).append (stdout x.trace) := by
  rw [Traced.after_trace, stdout_append, stdout_courseShown, Traced.after_trace, stdout_append]
  rfl

theorem stderr_checked :
    stderr ((x.after written).after (courseShown c user path)).trace =
      (stderr written).append (stderr x.trace) := by
  rw [Traced.after_trace, stderr_append, stderr_courseShown, Traced.after_trace, stderr_append]
  rfl

theorem calls_checked (hsilent : calls written = []) :
    calls ((x.after written).after (courseShown c user path)).trace =
      (Query.run c user path).calls ++ calls x.trace := by
  rw [Traced.after_trace, calls_append, calls_courseShown, Traced.after_trace, calls_append,
    hsilent, List.nil_append]

end OnePath

/-! ## Checks of several paths -/

/-- What a run shows that checks these paths, on a standard output that takes
everything: what the queries about the paths add to both outputs and to the calls, in
order, and the greatest status, which is `before` or what one of the queries adds. -/
structure Composed (c : Collaborators) (user : String) (quiet : Bool) (err : Sink)
    (before : Status) (paths : List Path) (x : Run) : Prop where
  out : stdout x.trace = RawText.ofString (String.join (verdictLines c user quiet paths))
  err : stderr x.trace = err.takes (errorLines c user paths)
  calls : calls x.trace = paths.flatMap fun path => (Query.run c user path).calls
  ending : x.ending = .ok (max before
    (Status.greatest (Status.contributions (fun path => (Query.run c user path).ending) paths)))

namespace Composed

variable {err : Sink} {before : Status} {path : Path} {rest : List Path} {x : Run}

theorem nil : Composed c user quiet err before [] (.value before) :=
  ⟨rfl, rfl, rfl, congrArg Except.ok (Nat.max_zero before).symm⟩

/-- A query that failed adds a line to the standard error output. -/
theorem cons_of_error {e : AccessError}
    (hending : (Query.run c user path).ending = .error (.error e))
    (hrest : Composed c user quiet (err.writeAll (errorPieces e.pieces)).sink
      (max before (.ofKind e.kind)) rest x) :
    Composed c user quiet err before (path :: rest)
      ((x.after [.err (err.writeAll (errorPieces e.pieces)).accepted]).after
        (courseShown c user path)) := by
  constructor
  · rw [stdout_checked, hrest.out, verdictLines_cons, hending]
    rfl
  · rw [stderr_checked, hrest.err, errorLines_cons, hending]
    show _ = err.takes (errorPieces e.pieces :: errorLines c user rest)
    rw [Sink.takes]
    simp [stderr, RawText.append]
  · rw [calls_checked _ _ _ rfl, hrest.calls, List.flatMap_cons]
  · rw [Status.contributions_cons (s := .ofKind e.kind) (by rw [hending]; rfl),
      Status.greatest_cons, ← Nat.max_assoc]
    exact hrest.ending

/-- A query with a verdict adds a line to the standard output, unless the run is to be
quiet. -/
theorem cons_of_verdict {v : Verdict} (hending : (Query.run c user path).ending = .ok v)
    (hrest : Composed c user quiet err (max before (.ofVerdict v)) rest x) :
    Composed c user quiet err before (path :: rest)
      ((x.after (if quiet then [] else [.out (RawText.ofString (verdictLine path v))])).after
        (courseShown c user path)) := by
  constructor
  · rw [stdout_checked, hrest.out, verdictLines_cons, hending]
    cases quiet with
    | true => rfl
    | false =>
        show _ =
          RawText.ofString (String.join (verdictLine path v :: verdictLines c user false rest))
        rw [String.join_cons, RawText.ofString_append]
        simp [stdout, RawText.append]
  · rw [stderr_checked, hrest.err, errorLines_cons, hending]
    cases quiet <;> rfl
  · rw [calls_checked _ _ _ (by cases quiet <;> rfl), hrest.calls, List.flatMap_cons]
  · rw [Status.contributions_cons (s := .ofVerdict v) (by rw [hending]; rfl),
      Status.greatest_cons, ← Nat.max_assoc]
    exact hrest.ending

end Composed

/-- **A run that nothing stops is composed of the checks of its paths.**  By induction on
the paths, over every status and every standard error output that the paths before may
leave. -/
theorem checkPaths_composed (err : Sink) (before : Status) {paths : List Path}
    (hunbroken : ∀ path ∈ paths, (Query.run c user path).ending ≠ .error .aborted) :
    Composed c user quiet err before paths
      (checkPaths c user quiet ⟨.endless, err, false⟩ before paths) := by
  induction paths generalizing err before with
  | nil => exact .nil
  | cons path rest ih =>
      have hrest : ∀ err before, Composed c user quiet err before rest
          (checkPaths c user quiet ⟨.endless, err, false⟩ before rest) :=
        fun err before => ih err before fun p hp => hunbroken p (List.mem_cons_of_mem _ hp)
      rw [checkPaths_cons]
      match hending : (Query.run c user path).ending with
      | .error .aborted => exact absurd hending (hunbroken path List.mem_cons_self)
      | .error (.error e) => exact .cons_of_error hending (hrest _ _)
      | .ok v =>
          have hcons := Composed.cons_of_verdict hending (hrest err (max before (.ofVerdict v)))
          cases quiet with
          | true => exact hcons
          | false =>
              simp only [afterQuery, Sink.writeAll_endless, join_verdictPieces]
              exact hcons

end Paths

/-! ## Runs split and reordered -/

/-- One run shows what two others show one after the other, and has the greater of their
statuses. -/
structure Joins (x y z : Run) : Prop where
  out : stdout x.trace = (stdout y.trace).append (stdout z.trace)
  calls : calls x.trace = calls y.trace ++ calls z.trace
  ending : ∃ s t, y.ending = .ok s ∧ z.ending = .ok t ∧ x.ending = .ok (max s t)

section Composed

variable {c : Collaborators} {user : String} {quiet : Bool} {err first second : Sink}
  {paths ps qs : List Path} {x y z : Run}

theorem Composed.joins (hx : Composed c user quiet err .allowed (ps ++ qs) x)
    (hy : Composed c user quiet first .allowed ps y)
    (hz : Composed c user quiet second .allowed qs z) : Joins x y z := by
  refine ⟨?_, ?_, _, _, hy.ending, hz.ending, ?_⟩
  · rw [hx.out, hy.out, hz.out, ← RawText.ofString_append, ← String.join_append, verdictLines,
      List.filterMap_append]
    rfl
  · rw [hx.calls, hy.calls, hz.calls, List.flatMap_append]
  · rw [hx.ending, Status.contributions_append, Status.greatest_append]
    simp only [Status.allowed, Nat.zero_max]

/-- Errors are joined as well if the second run goes on where the first one stopped. -/
theorem Composed.joins_err (hx : Composed c user quiet err .allowed (ps ++ qs) x)
    (hy : Composed c user quiet err .allowed ps y)
    (hz : Composed c user quiet (err.left (errorLines c user ps)) .allowed qs z) :
    stderr x.trace = (stderr y.trace).append (stderr z.trace) := by
  rw [hx.err, hy.err, hz.err, ← Sink.takes_append, errorLines, List.filterMap_append]
  rfl

theorem Composed.err_of_endless (hx : Composed c user quiet .endless .allowed paths x) :
    stderr x.trace = RawText.ofString
      (String.join (paths.filterMap fun path => errorLine? (Query.run c user path).ending)) := by
  rw [hx.err, Sink.takes_endless, errorLines, List.map_filterMap]
  simp only [map_join_errorPieces?]

end Composed

/-- The run of a request whose paths are checked, on a standard output that takes
everything. -/
structure Composition (h : Host) (channels : Channels) (r : Request) (user : String)
    (status : Status) (x : Run) : Prop where
  /-- The run shows what the queries add, one after the other. -/
  composed : Composed (Live.collaborators h r.policy) user r.quiet channels.err .allowed r.paths x
  /-- An error is a line on a standard error output that takes everything. -/
  errors : channels.err = .endless → stderr x.trace = RawText.ofString (String.join
    (r.paths.filterMap fun path =>
      errorLine? (Query.run (Live.collaborators h r.policy) user path).ending))
  /-- The run has a status. -/
  ending : x.ending = .ok status
  /-- The status tells how the queries ended. -/
  tells : status.Tells
    (fun path => (Query.run (Live.collaborators h r.policy) user path).ending) r.paths
  /-- Split the paths in two, and two runs join to this one, whatever happens to the
  errors of the second. -/
  split : ∀ ps qs err, r.paths = ps ++ qs →
    Joins x (carryOut h channels { r with paths := ps })
      (carryOut h { channels with err := err } { r with paths := qs })
  /-- The errors of both join if the second one goes on where the first stopped. -/
  splitErrors : ∀ ps qs, r.paths = ps ++ qs →
    stderr x.trace = (stderr (carryOut h channels { r with paths := ps }).trace).append
      (stderr (carryOut h { channels with
        err := channels.err.left (errorLines (Live.collaborators h r.policy) user ps) }
          { r with paths := qs }).trace)
  /-- On an endless standard error output every run starts where the one before
  stopped. -/
  splitEndless : channels.err = .endless → ∀ ps qs, r.paths = ps ++ qs →
    stderr x.trace = (stderr (carryOut h channels { r with paths := ps }).trace).append
      (stderr (carryOut h channels { r with paths := qs }).trace)
  /-- The order of the paths does not matter for the status. -/
  reordered : ∀ paths, r.paths.Perm paths →
    (carryOut h channels { r with paths := paths }).ending = .ok status

section Requests

variable {h : Host} {channels : Channels} {r : Request} {user : String}

/-- A request is composed of the checks of its paths, whatever paths it has and wherever
it writes errors. -/
theorem carryOut_composed (hout : channels.out = .endless) (hflush : channels.flushFails = false)
    (hpaths : r.isInformation = false) (huser : r.user = some user)
    (hfirst : r.policy.Allocatable) (err : Sink) (paths : List Path) :
    Composed (Live.collaborators h r.policy) user r.quiet err .allowed paths
      (carryOut h { channels with err := err } { r with paths := paths }) := by
  obtain ⟨out, given, flushFails⟩ := channels
  subst hout hflush
  have hchecks := carryOut_of_paths (r := { r with paths := paths }) h ⟨.endless, err, false⟩
    hpaths huser
  rw [hchecks]
  exact checkPaths_composed err .allowed
    fun path _ => Live.run_ending_ne_aborted h user path hfirst

/-- A request with its paths in two parts or in another order is composed of the same
checks. -/
theorem carryOut_composition (hout : channels.out = .endless)
    (hflush : channels.flushFails = false) (hpaths : r.isInformation = false)
    (huser : r.user = some user) (hfirst : r.policy.Allocatable) :
    ∃ status, Composition h channels r user status (carryOut h channels r) := by
  have hcomposed := carryOut_composed (h := h) hout hflush hpaths huser hfirst
  have hx : Composed (Live.collaborators h r.policy) user r.quiet channels.err .allowed r.paths
      (carryOut h channels r) := hcomposed channels.err r.paths
  refine ⟨_, hx, ?_, hx.ending, ?_, ?_, ?_, ?_, ?_⟩
  · intro hendless
    rw [hendless] at hx
    exact hx.err_of_endless
  · rw [Status.allowed, Nat.zero_max]
    exact Status.tells_greatest fun path _ => Live.run_ending_ne_aborted h user path hfirst
  · intro ps qs err hsplit
    rw [hsplit] at hx
    exact hx.joins (hcomposed channels.err ps) (hcomposed err qs)
  · intro ps qs hsplit
    rw [hsplit] at hx
    exact hx.joins_err (hcomposed channels.err ps) (hcomposed _ qs)
  · intro hendless ps qs hsplit
    have hleft : channels.err.left (errorLines (Live.collaborators h r.policy) user ps) =
        channels.err := by
      rw [hendless]
      exact Sink.left_endless _
    rw [hsplit] at hx
    refine hx.joins_err (hcomposed channels.err ps) ?_
    rw [hleft]
    exact hcomposed channels.err qs
  · intro paths hperm
    have hsame := Status.greatest_perm (hperm.filterMap fun path => Status.ofEnding?
      (Query.run (Live.collaborators h r.policy) user path).ending)
    rw [Status.contributions, hsame]
    exact (hcomposed channels.err paths).ending

end Requests

/-- **A run is composed of the checks of its paths, and a status of its own tells that the
command line was rejected.**  A run that is not stopped by its standard output or by a
buffer that nothing can hold shows what the queries about its paths add, in order, and
their greatest status; two runs for the parts of its paths join to it.  Whatever the
command line and wherever a run writes, a rejected command line calls nothing, and a
process reports the status as it is. -/
theorem run_composes (h : Host) (channels : Channels) (arguments : List RawText) :
    (∀ r, Request.ofArguments arguments = .ok r → r.isInformation = false →
      r.policy.Allocatable → channels.out = .endless → channels.flushFails = false →
        r.paths ≠ [] ∧ ∃ user, r.user = some user ∧
          ∃ status, Composition h channels r user status (run h channels arguments)) ∧
      ((run h channels arguments).ending = .ok .usage ↔
        ∃ e, Request.ofArguments arguments = .error e) ∧
      (∀ e, Request.ofArguments arguments = .error e →
        stdout (run h channels arguments).trace = ⟨[]⟩ ∧
          stderr (run h channels arguments).trace =
            channels.err.takes [errorPieces [e.message], hintPieces] ∧
          calls (run h channels arguments).trace = []) ∧
      ∀ status, (run h channels arguments).ending = .ok status →
        (Status.exitByte status).toNat = status := by
  refine ⟨?_, ?_, ?_, ?_⟩
  · intro r haccepted hpaths hfirst hout hflush
    obtain ⟨⟨user, huser⟩, hnonempty⟩ := Request.ofArguments_operands haccepted hpaths
    rw [run_of_accepted h channels haccepted]
    exact ⟨hnonempty, user, huser, carryOut_composition hout hflush hpaths huser hfirst⟩
  · constructor
    · intro husage
      cases harguments : Request.ofArguments arguments with
      | error e => exact ⟨e, rfl⟩
      | ok r =>
          rw [run_of_accepted h channels harguments] at husage
          exact absurd rfl (carryOut_isOfAccepted h channels harguments husage).1
    · rintro ⟨e, hrejected⟩
      rw [run_of_rejected h channels hrejected]
      rfl
  · intro e hrejected
    rw [run_of_rejected h channels hrejected]
    refine ⟨rfl, ?_, rfl⟩
    simp [reject, stderr, Sink.takes, RawText.append]
  · intro status hstatus
    apply Status.toNat_exitByte
    cases harguments : Request.ofArguments arguments with
    | error e =>
        rw [run_of_rejected h channels harguments] at hstatus
        obtain rfl := Except.ok.inj hstatus
        decide
    | ok r =>
        rw [run_of_accepted h channels harguments] at hstatus
        exact (carryOut_isOfAccepted h channels harguments hstatus).2

/-- A host with a user, a file that everybody may read and one that only its owner may
read. -/
def openAndSealed : Host where
  users := [⟨⟨.ofString "eve", 7, none, none, true, true⟩, 100, []⟩]
  groups := []
  files := [
    ⟨.ofString "/open", 500, 50, 0o100644, none, .absent, none⟩,
    ⟨.ofString "/sealed", 500, 50, 0o100600, none, .absent, none⟩]
  habit := .plain
  currentUid := 0

/-- The run in which eve's paths are checked. -/
def eveAsks (paths : List String) : Run :=
  run openAndSealed .unlimited (("permcheck" :: "eve" :: paths).map .ofString)

/-- A missing file stops nothing and counts more than a path that is denied. -/
theorem run_composes_openAndSealed :
    stdout (eveAsks ["/sealed", "/none", "/open"]).trace =
        .ofString "denied: /sealed\nallowed: /open\n" ∧
      stderr (eveAsks ["/sealed", "/none", "/open"]).trace =
        .ofString "permcheck: error: file not found: /none\n" ∧
      (eveAsks ["/sealed", "/none", "/open"]).ending = .ok .fileNotFound ∧
      Joins (eveAsks ["/sealed", "/none", "/open"]) (eveAsks ["/sealed"])
        (eveAsks ["/none", "/open"]) ∧
      stderr (eveAsks ["/sealed", "/none", "/open"]).trace =
        (stderr (eveAsks ["/sealed"]).trace).append (stderr (eveAsks ["/none", "/open"]).trace) ∧
      (eveAsks []).ending = .ok .usage ∧ calls (eveAsks []).trace = [] := by
  let c := Live.collaborators openAndSealed .standard
  let paths : List Path := ["/sealed", "/none", "/open"].map .ofString
  let r : Request := ⟨false, false, .standard, false, .standard, some "eve", paths⟩
  have haccepted : Request.ofArguments (("permcheck" :: "eve" :: ["/sealed", "/none", "/open"]).map
      .ofString) = .ok r := rfl
  have hrejected : Request.ofArguments (["permcheck", "eve"].map .ofString) =
      .error .missingPath := rfl
  obtain ⟨hcomposes, -, -, -⟩ := run_composes openAndSealed .unlimited
    (("permcheck" :: "eve" :: ["/sealed", "/none", "/open"]).map .ofString)
  obtain ⟨-, husage, hsilent, -⟩ := run_composes openAndSealed .unlimited
    (["permcheck", "eve"].map .ofString)
  obtain ⟨-, user, huser, status, hrun⟩ := hcomposes r haccepted rfl (by decide) rfl rfl
  obtain rfl : "eve" = user := Option.some.inj huser
  have hverdicts :
      verdictLines c "eve" false paths = ["denied: /sealed\n", "allowed: /open\n"] := by
    decide +kernel
  have herrors : (paths.filterMap fun path => errorLine? (Query.run c "eve" path).ending) =
      ["permcheck: error: file not found: /none\n"] := by
    decide +kernel
  have hstatus : Status.greatest (Status.contributions
      (fun path => (Query.run c "eve" path).ending) paths) = .fileNotFound := by
    decide +kernel
  refine ⟨?_, ?_, ?_, ?_, ?_, husage.mpr ⟨_, hrejected⟩, (hsilent _ hrejected).2.2⟩
  · exact hrun.composed.out.trans (congrArg (RawText.ofString ∘ String.join) hverdicts)
  · exact (hrun.errors rfl).trans (congrArg (RawText.ofString ∘ String.join) herrors)
  · exact hrun.composed.ending.trans (congrArg Except.ok hstatus)
  · exact hrun.split [.ofString "/sealed"] (["/none", "/open"].map .ofString) .endless rfl
  · exact hrun.splitEndless rfl [.ofString "/sealed"] (["/none", "/open"].map .ofString) rfl

end CommandLine

end ReadAccess
