/-
  Runs without a status.

  A query breaks off if it has to list groups into a first buffer that is larger than any
  allocation, and a run breaks off with it.  This is the only way: a run has no status
  exactly if its first buffer is that large and it gets to a path whose query has to list
  groups (`CommandLine.run_breaksOff_iff`).  With any other first buffer groups that cannot
  be listed are an error of their path, and the run goes on.

  This is about runs that are begun.  A process whose environment holds a filter that cannot
  be cut (an error of `CommandLine.filterOf`) ends before any path is checked.
-/
import ReadAccess.Proofs.Composition
import ReadAccess.Proofs.Policies
import ReadAccess.Proofs.Proceedings

set_option autoImplicit false

namespace ReadAccess

open Text (RawText)

/-! ## Queries that list groups -/

namespace Query

variable {c : Collaborators} {user : String} {path : Path}

theorem run_proceeds (c : Collaborators) (user : String) (path : Path) :
    Proceeds c user path (run c user path).questions (deliberate c user path).events
      (run c user path).ending := by
  rw [questions_run]
  exact deliberate_proceeds c user path

/-- A query that asks for groups knows its user, asks for the groups of nobody else, and
fails if they cannot be listed. -/
theorem exists_record_of_listsGroups (h : (run c user path).ListsGroups) :
    ∃ record, (c.resolveUser user).ending = .ok record ∧
      (∀ name gid, .resolveGroups name gid ∈ (run c user path).questions →
        name = user ∧ gid = record.primaryGid) ∧
      ∀ failure, (c.resolveGroups user record.primaryGid).ending = .error failure →
        (run c user path).ending = .error failure := by
  obtain ⟨name, gid, hasks⟩ := h
  have hways := run_proceeds c user path
  generalize (run c user path).questions = questions at hways hasks ⊢
  generalize (deliberate c user path).events = events at hways
  generalize (run c user path).ending = ending at hways ⊢
  cases hways with
  | unresolved | unprobed | unloaded | malformed | permitted => simp at hasks
  | unlisted hloads hknown hdenied hgroups =>
      refine ⟨_, hloads.resolves, ?_, ?_⟩
      · intro name gid hmem
        simpa using hmem
      · intro failure hfailure
        exact congrArg Except.error (Except.error.inj (hgroups.symm.trans hfailure))
  | listed hloads hknown hdenied hgroups =>
      refine ⟨_, hloads.resolves, ?_, ?_⟩
      · intro name gid hmem
        simpa using hmem
      · intro failure hfailure
        cases hgroups.symm.trans hfailure

/-- A query asks for the groups of its user, and they cannot be listed. -/
def CannotList (c : Collaborators) (user : String) (path : Path) : Prop :=
  ∃ gid failure, .resolveGroups user gid ∈ (run c user path).questions ∧
    (c.resolveGroups user gid).ending = .error failure

end Query

namespace Live

open Groups (Policy)

variable {h : Host} {policy : Policy} {user : String} {path : Path}

/-- Why the groups of a user cannot be listed. -/
theorem kind_of_resolveGroups_error (hname : '\x00' ∉ user.toList) {gid : Gid} {e : AccessError}
    (hgroups : (resolveGroups h policy user gid).ending = .error (.error e)) :
    e.kind = .groupListOverflow ∨ e.kind = .systemFailure := by
  have hname : ¬ user.toList.contains '\x00' = true := by simpa using hname
  rw [resolveGroups, if_neg hname] at hgroups
  generalize Groups.list h.lister policy user gid ⟨⟩ = listing at hgroups
  obtain ⟨attempts, ending⟩ := listing
  cases ending with
  | ok groups => cases hgroups
  | error fault =>
      cases fault with
      | failed failure =>
          cases hgroups
          exact .inr rfl
      | overflow wanted =>
          cases hgroups
          exact .inl rfl
      | unallocatable => cases hgroups

/-- No listing starts with a first buffer that is larger than any allocation. -/
theorem resolveGroups_of_not_allocatable (hname : '\x00' ∉ user.toList)
    (hfirst : ¬ policy.Allocatable) (gid : Gid) :
    (resolveGroups h policy user gid).ending = .error .aborted := by
  have hname : ¬ user.toList.contains '\x00' = true := by simpa using hname
  rw [resolveGroups, if_neg hname, Groups.list, if_neg hfirst]
  rfl

/-- A query breaks off exactly if it asks for groups and the first buffer is larger than
any allocation. -/
theorem run_aborted_iff :
    (Query.run (collaborators h policy) user path).ending = .error .aborted ↔
      ¬ policy.Allocatable ∧ (Query.run (collaborators h policy) user path).ListsGroups := by
  constructor
  · intro haborted
    refine ⟨fun hfirst => run_ending_ne_aborted h user path hfirst haborted, ?_⟩
    have hways := Query.run_proceeds (collaborators h policy) user path
    rw [haborted] at hways
    generalize hquestions : (Query.run (collaborators h policy) user path).questions = questions
      at hways
    generalize (Query.deliberate (collaborators h policy) user path).events = events at hways
    cases hways with
    | unresolved hresolve => exact absurd hresolve (resolveUser_ne_aborted h user)
    | unprobed hresolve hprobe => exact absurd hprobe (probe_ne_aborted h path)
    | unloaded hresolve hprobe hload => exact absurd hload (loadAcl_ne_aborted h path _)
    | @unlisted record m load _ hloads hknown hdenied hgroups =>
        refine ⟨user, record.primaryGid, ?_⟩
        rw [hquestions]
        simp
  · rintro ⟨hfirst, hlists⟩
    obtain ⟨record, hresolve, -, hfails⟩ := Query.exists_record_of_listsGroups hlists
    have hname := nul_notMem_of_resolveUser hresolve
    exact hfails .aborted (resolveGroups_of_not_allocatable hname hfirst _)

/-- With any other first buffer, groups that cannot be listed are an error of the query. -/
theorem run_error_of_cannotList (hfirst : policy.Allocatable)
    (hcannot : Query.CannotList (collaborators h policy) user path) :
    ∃ e, (Query.run (collaborators h policy) user path).ending = .error (.error e) ∧
      (e.kind = .groupListOverflow ∨ e.kind = .systemFailure) := by
  obtain ⟨gid, failure, hasks, hgroups⟩ := hcannot
  obtain ⟨record, hresolve, hown, hfails⟩ :=
    Query.exists_record_of_listsGroups ⟨user, gid, hasks⟩
  obtain ⟨-, rfl⟩ := hown user gid hasks
  cases failure with
  | aborted => exact absurd hgroups (resolveGroups_ne_aborted h hfirst user _)
  | error e =>
      have hname := nul_notMem_of_resolveUser hresolve
      exact ⟨e, hfails _ hgroups, kind_of_resolveGroups_error hname hgroups⟩

end Live

namespace CommandLine

/-! ## The paths that a run gets to -/

/-- A run over these paths, with this standard output, gets to the query about a path: the
queries before do not break off, and their verdicts are written unless the run is to be
quiet. -/
inductive ComesTo (c : Collaborators) (user : String) (quiet : Bool) :
    Sink → List Path → Path → Prop where
  | first (out : Sink) (path : Path) (rest : List Path) :
      ComesTo c user quiet out (path :: rest) path
  | failed {out : Sink} {path target : Path} {rest : List Path} {e : AccessError}
      (hending : (Query.run c user path).ending = .error (.error e))
      (hrest : ComesTo c user quiet out rest target) :
      ComesTo c user quiet out (path :: rest) target
  | silent {out : Sink} {path target : Path} {rest : List Path} {v : Verdict}
      (hquiet : quiet = true) (hending : (Query.run c user path).ending = .ok v)
      (hrest : ComesTo c user quiet out rest target) :
      ComesTo c user quiet out (path :: rest) target
  | told {out : Sink} {path target : Path} {rest : List Path} {v : Verdict}
      (hloud : quiet = false) (hending : (Query.run c user path).ending = .ok v)
      (hwritten : (out.writeAll (verdictPieces path v)).complete = true)
      (hrest : ComesTo c user quiet (out.writeAll (verdictPieces path v)).sink rest target) :
      ComesTo c user quiet out (path :: rest) target

section Paths

variable {c : Collaborators} {user : String} {quiet : Bool} {out : Sink} {paths : List Path}
  {path : Path}

/-- A run that gets to a path is from there on a run over this path and the rest. -/
theorem ComesTo.exists_split (hcomes : ComesTo c user quiet out paths path) (err : Sink)
    (flushFails : Bool) {before : Status} (hbefore : before.IsOfAccepted) :
    ∃ shown channels later rest, later.IsOfAccepted ∧
      checkPaths c user quiet ⟨out, err, flushFails⟩ before paths =
        (checkPaths c user quiet channels later (path :: rest)).after shown := by
  induction hcomes generalizing err before with
  | first out path rest => exact ⟨[], _, before, rest, hbefore, rfl⟩
  | @failed out path target rest e hending hrest ih =>
      let written := err.writeAll (errorPieces e.pieces)
      obtain ⟨shown, channels, later, rest', hlater, hsplit⟩ :=
        ih written.sink (hbefore.max (Status.isOfAccepted_ofKind e.kind))
      refine ⟨courseShown c user path ++ ([.err written.accepted] ++ shown), channels, later, rest',
        hlater, ?_⟩
      rw [← Traced.after_after, ← Traced.after_after, ← hsplit, checkPaths_cons, hending,
        afterQuery]
  | @silent out path target rest v hquiet hending hrest ih =>
      obtain ⟨shown, channels, later, rest', hlater, hsplit⟩ :=
        ih err (hbefore.max (Status.isOfAccepted_ofVerdict v))
      refine ⟨courseShown c user path ++ shown, channels, later, rest', hlater, ?_⟩
      rw [← Traced.after_after, ← hsplit, checkPaths_cons, hending, afterQuery, if_pos hquiet]
  | @told out path target rest v hloud hending hwritten hrest ih =>
      let written := out.writeAll (verdictPieces path v)
      obtain ⟨shown, channels, later, rest', hlater, hsplit⟩ :=
        ih err (hbefore.max (Status.isOfAccepted_ofVerdict v))
      refine ⟨courseShown c user path ++ ([.out written.accepted] ++ shown), channels, later, rest',
        hlater, ?_⟩
      rw [← Traced.after_after, ← Traced.after_after, ← hsplit, checkPaths_cons, hending,
        afterQuery, if_neg (Bool.eq_false_iff.mp hloud)]
      exact congrArg (Traced.after _) (if_pos hwritten)

/-- A run breaks off with a query that it gets to, and shows nothing behind it. -/
theorem ComesTo.breaksOff (hcomes : ComesTo c user quiet out paths path)
    (haborted : (Query.run c user path).ending = .error .aborted) (err : Sink)
    (flushFails : Bool) {before : Status} (hbefore : before.IsOfAccepted) :
    (checkPaths c user quiet ⟨out, err, flushFails⟩ before paths).ending =
        .error .queryBrokeOff ∧
      courseShown c user path <:+
        (checkPaths c user quiet ⟨out, err, flushFails⟩ before paths).trace := by
  obtain ⟨shown, channels, later, rest, -, hsplit⟩ := hcomes.exists_split err flushFails hbefore
  rw [hsplit, checkPaths_cons, haborted, afterQuery]
  refine ⟨rfl, shown, ?_⟩
  rw [Traced.after_trace, Traced.after_trace]
  exact congrArg (shown ++ ·) (List.append_nil _).symm

/-- A run breaks off with one of the queries that it gets to.  By induction on the paths. -/
theorem exists_comesTo_of_breaksOff (channels : Channels) (before : Status)
    (hbroken : (checkPaths c user quiet channels before paths).ending = .error .queryBrokeOff) :
    ∃ path, ComesTo c user quiet channels.out paths path ∧
      (Query.run c user path).ending = .error .aborted := by
  induction paths generalizing channels before with
  | nil => cases hbroken
  | cons path rest ih =>
      rw [checkPaths_cons, Traced.after_ending] at hbroken
      match hending : (Query.run c user path).ending with
      | .error .aborted => exact ⟨path, .first _ _ _, hending⟩
      | .error (.error e) =>
          rw [hending] at hbroken
          obtain ⟨target, hcomes, haborted⟩ := ih _ _ hbroken
          exact ⟨target, .failed hending hcomes, haborted⟩
      | .ok v =>
          rw [hending, afterQuery] at hbroken
          cases hquiet : quiet with
          | true =>
              rw [if_pos hquiet] at hbroken
              obtain ⟨target, hcomes, haborted⟩ := ih _ _ hbroken
              exact ⟨target, .silent rfl hending (hquiet ▸ hcomes), haborted⟩
          | false =>
              rw [if_neg (Bool.eq_false_iff.mp hquiet)] at hbroken
              dsimp only at hbroken
              split at hbroken
              · next hwritten =>
                obtain ⟨target, hcomes, haborted⟩ := ih _ _ hbroken
                exact ⟨target, .told rfl hending hwritten (hquiet ▸ hcomes), haborted⟩
              · cases hbroken

/-- An error of a path that the run gets to is written as far as the standard error output
takes it, and counts in the status. -/
theorem ComesTo.reports (hcomes : ComesTo c user quiet out paths path) {e : AccessError}
    (hending : (Query.run c user path).ending = .error (.error e)) (err : Sink)
    (flushFails : Bool) {before : Status} (hbefore : before.IsOfAccepted) :
    (∃ given : Sink, .err (given.writeAll (errorPieces e.pieces)).accepted ∈
        (checkPaths c user quiet ⟨out, err, flushFails⟩ before paths).trace) ∧
      ∀ status, (checkPaths c user quiet ⟨out, err, flushFails⟩ before paths).ending = .ok status →
        .ofKind e.kind ≤ status := by
  obtain ⟨shown, channels, later, rest, hlater, hsplit⟩ :=
    hcomes.exists_split err flushFails hbefore
  rw [hsplit, checkPaths_cons, hending, afterQuery]
  refine ⟨⟨channels.err, by simp⟩, ?_⟩
  intro status hstatus
  have hmax := hlater.max (Status.isOfAccepted_ofKind e.kind)
  obtain ⟨hle, -⟩ := checkPaths_status _ _ _ _ hmax _ hstatus
  exact Nat.le_trans (Nat.le_max_right _ _) hle

end Paths

/-! ## Whole runs -/

/-- A command line is accepted, and asks about files for a user. -/
structure Asks (arguments : List RawText) (r : Request) (user : String) : Prop where
  accepted : Request.ofArguments arguments = .ok r
  files : r.isInformation = false
  asker : r.user = some user

/-- A run for a command line that asks about files gets to a path. -/
def RunComesTo (h : Host) (channels : Channels) (r : Request) (user : String) (path : Path) :
    Prop :=
  ComesTo (Live.collaborators h r.policy) user r.quiet channels.out r.paths path

section Runs

variable {h : Host} {channels : Channels} {arguments : List RawText} {r : Request}
  {user : String} {path : Path}

theorem Asks.run_eq (hasks : Asks arguments r user) (h : Host) (channels : Channels) :
    run h channels arguments =
      checkPaths (Live.collaborators h r.policy) user r.quiet channels .allowed r.paths := by
  rw [run_of_accepted h channels hasks.accepted]
  exact carryOut_of_paths h channels hasks.files hasks.asker

/-- Only a run that checks paths can break off. -/
theorem exists_asks_of_breaksOff
    (hbroken : (run h channels arguments).ending = .error .queryBrokeOff) :
    ∃ r user, Asks arguments r user := by
  cases harguments : Request.ofArguments arguments with
  | error e =>
      rw [run_of_rejected h channels harguments] at hbroken
      cases hbroken
  | ok r =>
      cases hinformation : r.isInformation with
      | false =>
          obtain ⟨⟨user, huser⟩, -⟩ := Request.ofArguments_operands harguments hinformation
          exact ⟨r, user, harguments, hinformation, huser⟩
      | true =>
          rw [run_of_accepted h channels harguments, carryOut] at hbroken
          split at hbroken
          · cases hbroken
          · split at hbroken
            · cases hbroken
            · next hhelp hversion => simp [Request.isInformation, hhelp, hversion] at hinformation

theorem run_status_le (h : Host) (channels : Channels) (arguments : List RawText)
    {status : Status} (hstatus : (run h channels arguments).ending = .ok status) :
    status ≤ Status.systemFailure := by
  cases harguments : Request.ofArguments arguments with
  | error e =>
      rw [run_of_rejected h channels harguments] at hstatus
      obtain rfl := Except.ok.inj hstatus
      decide
  | ok r =>
      rw [run_of_accepted h channels harguments] at hstatus
      exact (carryOut_isOfAccepted h channels harguments hstatus).2

/-- A run that does not break off has a status. -/
theorem exists_status_of_allocatable (h : Host) (channels : Channels)
    (hasks : Asks arguments r user) (hfirst : r.policy.Allocatable) :
    ∃ status, (run h channels arguments).ending = .ok status := by
  cases hending : (run h channels arguments).ending with
  | ok status => exact ⟨status, rfl⟩
  | error abort =>
      rw [hasks.run_eq h channels] at hending
      obtain ⟨path, -, haborted⟩ := exists_comesTo_of_breaksOff channels .allowed hending
      exact absurd haborted (Live.run_ending_ne_aborted h user path hfirst)

/-- **A run breaks off exactly if it gets to a query that lists groups, and the first
buffer for them is larger than any allocation.**  Else it has a status of at most
`Status.systemFailure`.  A run that breaks off shows the course of the query and nothing
behind it: no line about the path, and nothing about the rest of the paths.  With any
other first buffer, groups that cannot be listed are an error of their path, the run goes
on, and its status is that of a list that overflows or of a failure of the system.

No environment is at hand here.  If it gives the process a filter that cannot be cut (an
error of `filterOf`), the process ends before any path is checked and there is no run to
speak of, whatever the first buffer is. -/
theorem run_breaksOff_iff (h : Host) (channels : Channels) (arguments : List RawText) :
    ((run h channels arguments).ending = .error .queryBrokeOff ↔
        ∃ r user path, Asks arguments r user ∧ ¬ r.policy.Allocatable ∧
          RunComesTo h channels r user path ∧
          (Query.run (Live.collaborators h r.policy) user path).ListsGroups) ∧
      (∀ status, (run h channels arguments).ending = .ok status →
        status ≤ Status.systemFailure) ∧
      ∀ r user path, Asks arguments r user → RunComesTo h channels r user path →
        (¬ r.policy.Allocatable →
          (Query.run (Live.collaborators h r.policy) user path).ListsGroups →
            courseShown (Live.collaborators h r.policy) user path <:+
              (run h channels arguments).trace) ∧
        (r.policy.Allocatable → Query.CannotList (Live.collaborators h r.policy) user path →
          ∃ e, (Query.run (Live.collaborators h r.policy) user path).ending = .error (.error e) ∧
            (e.kind = .groupListOverflow ∨ e.kind = .systemFailure) ∧
            (∃ given : Sink, .err (given.writeAll (errorPieces e.pieces)).accepted ∈
              (run h channels arguments).trace) ∧
            ((run h channels arguments).ending = .ok .groupListOverflow ∨
              (run h channels arguments).ending = .ok .systemFailure)) := by
  obtain ⟨out, err, flushFails⟩ := channels
  have hleast : Status.IsOfAccepted Status.allowed := Status.isOfAccepted_ofVerdict .allowed
  refine ⟨⟨?_, ?_⟩, fun status => run_status_le h _ arguments, ?_⟩
  · intro hbroken
    obtain ⟨r, user, hasks⟩ := exists_asks_of_breaksOff hbroken
    rw [hasks.run_eq] at hbroken
    obtain ⟨path, hcomes, haborted⟩ := exists_comesTo_of_breaksOff _ _ hbroken
    obtain ⟨hfirst, hlists⟩ := Live.run_aborted_iff.mp haborted
    exact ⟨r, user, path, hasks, hfirst, hcomes, hlists⟩
  · rintro ⟨r, user, path, hasks, hfirst, hcomes, hlists⟩
    rw [hasks.run_eq]
    exact (ComesTo.breaksOff hcomes (Live.run_aborted_iff.mpr ⟨hfirst, hlists⟩) err flushFails
      hleast).1
  · intro r user path hasks hcomes
    refine ⟨?_, ?_⟩
    · intro hfirst hlists
      rw [hasks.run_eq]
      exact (ComesTo.breaksOff hcomes (Live.run_aborted_iff.mpr ⟨hfirst, hlists⟩) err flushFails
        hleast).2
    · intro hfirst hcannot
      obtain ⟨e, hending, hkind⟩ := Live.run_error_of_cannotList hfirst hcannot
      obtain ⟨status, hstatus⟩ :=
        exists_status_of_allocatable h ⟨out, err, flushFails⟩ hasks hfirst
      obtain ⟨hwritten, hcounts⟩ := ComesTo.reports hcomes hending err flushFails hleast
      rw [← hasks.run_eq] at hwritten hcounts
      refine ⟨e, hending, hkind, hwritten, ?_⟩
      have hle := run_status_le h _ arguments hstatus
      have hge : Status.groupListOverflow ≤ status := by
        refine Nat.le_trans ?_ (hcounts status hstatus)
        obtain hoverflow | hsystem := hkind
        · rw [hoverflow]
          exact Nat.le_refl _
        · rw [hsystem]
          decide
      rw [hstatus]
      -- No status is between the two.
      obtain hlt | hgt := Nat.lt_or_ge Status.groupListOverflow status
      · exact .inr (congrArg Except.ok (Nat.le_antisymm hle hlt))
      · exact .inl (congrArg Except.ok (Nat.le_antisymm hgt hge))

end Runs

/-- The command line in which eve asks for `/open` and `/sealed`, with a first buffer of
this many slots. -/
def eveWith (slots : String) : List RawText :=
  ["permcheck", "--initial-groups=" ++ slots, "eve", "/open", "/sealed"].map .ofString

/-- The verdict on `/open` needs no groups and is written before the run breaks off.  With
fewer slots, but more than the listing call counts, `/sealed` is a failure of the system. -/
theorem run_breaksOff_iff_openAndSealed :
    (run openAndSealed .unlimited (eveWith "18446744073709551615")).ending =
        .error .queryBrokeOff ∧
      stdout (run openAndSealed .unlimited (eveWith "18446744073709551615")).trace =
        .ofString "allowed: /open\n" ∧
      (run openAndSealed .unlimited (eveWith "2147483648")).ending = .ok .systemFailure := by
  let r (slots : Size) : Request :=
    ⟨false, false, .standard, false, Groups.Policy.standard.withInitial slots, some "eve",
      [.ofString "/open", .ofString "/sealed"]⟩
  have hgreatest : Asks (eveWith "18446744073709551615") (r 18446744073709551615) "eve" :=
    ⟨rfl, rfl, rfl⟩
  have hmany : Asks (eveWith "2147483648") (r 2147483648) "eve" := ⟨rfl, rfl, rfl⟩
  have hcomes : ∀ slots,
      RunComesTo openAndSealed .unlimited (r slots) "eve" (.ofString "/sealed") := by
    intro slots
    have hopen : (Query.run (Live.collaborators openAndSealed (r slots).policy) "eve"
        (.ofString "/open")).ending = .ok .allowed := by
      rfl
    exact .told rfl hopen rfl (.first _ _ _)
  refine ⟨?_, by decide +kernel, ?_⟩
  · refine (run_breaksOff_iff _ _ _).1.mpr ⟨_, _, _, hgreatest, by decide, hcomes _, ?_⟩
    refine ⟨"eve", 100, ?_⟩
    decide +kernel
  · obtain ⟨-, -, hgoes⟩ := run_breaksOff_iff openAndSealed .unlimited (eveWith "2147483648")
    obtain ⟨-, hreports⟩ := hgoes _ _ _ hmany (hcomes _)
    have hrefused : (Live.resolveGroups openAndSealed (r 2147483648).policy "eve" 100).ending =
        .error (.error (.systemFailure .enumerateGroups .bufferTooLarge)) := by
      decide +kernel
    obtain ⟨e, -, -, -, hstatus⟩ := hreports (by decide) ⟨100, _, by decide +kernel, hrefused⟩
    exact hstatus.resolve_left (by decide +kernel)

end CommandLine

end ReadAccess
