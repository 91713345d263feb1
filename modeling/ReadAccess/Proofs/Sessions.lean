/-
  What sessions and checkers count and record.

  The questions of a query follow from the answers to those before
  (`Query.questions_run_eq_agenda`).  So a session has asked each collaborator as
  often as a query got that far, and neither what it has counted nor what it has
  recorded before tells on a query.  The same is true of a checker, whose tables
  count for themselves (`Session.queries_of_tables`).
-/
import ReadAccess.Proofs.Checkers
import ReadAccess.Proofs.Proceedings

set_option autoImplicit false

namespace ReadAccess

/-- How the pass for the user alone ends, over the list or else over the mode
bits. -/
def AclLoad.userPass (path : Path) (m : Metadata) (uid : Uid) :
    AclLoad → Except AccessError Verdict
  | .entries acl => (acl.pass path m (.user uid)).ending
  | .unsupported => (ModeBits.pass m (.user uid)).ending

theorem AclLoad.userPass_eq_denied_iff {load : AclLoad} {path : Path} {m : Metadata} {uid : Uid} :
    load.userPass path m uid = .ok .denied ↔
      load.firstUnknown? = none ∧ ¬ load.Permits m (.user uid) := by
  cases load with
  | unsupported =>
      rw [userPass, ModeBits.pass_ending, Except.ok.injEq, Verdict.ofBool_eq_denied_iff,
        decide_eq_false_iff_not]
      exact (and_iff_right rfl).symm
  | entries acl =>
      rw [userPass, Acl.pass_ending]
      cases hunknown : acl.firstUnknown? with
      | some raw => simp [firstUnknown?, hunknown]
      | none => simp [firstUnknown?, hunknown, Permits]

namespace Query

/-! ## How far a query gets -/

/-- The user, if the query finds one. -/
def resolved? (c : Collaborators) (user : String) : Option UserRecord :=
  (c.resolveUser user).ending.toOption

/-- The user and the file, if the query finds both. -/
def probed? (c : Collaborators) (user : String) (path : Path) : Option (UserRecord × Metadata) := do
  let record ← resolved? c user
  let m ← (c.probe path).ending.toOption
  return (record, m)

/-- The user, if the query loads what there is as the list, and the pass for the
user alone gets to its end and does not allow reading. -/
def undecided? (c : Collaborators) (user : String) (path : Path) : Option UserRecord := do
  let (record, m) ← probed? c user path
  let load ← (c.loadAcl path m).ending.toOption
  if load.userPass path m record.uid = .ok .denied then return record else none

/-- The questions that the answers give reason to ask: each at most once, and
each about what the answers before it have found. -/
def agenda (c : Collaborators) (user : String) (path : Path) : List Consultation :=
  .resolveUser user ::
    ((resolved? c user).toList.map fun _ => .probe path) ++
    ((probed? c user path).toList.map fun found => .loadAcl path found.2) ++
    (undecided? c user path).toList.map fun record => .resolveGroups user record.primaryGid

section Agenda

variable {c : Collaborators} {user : String} {path : Path} {record : UserRecord} {m : Metadata}
  {load : AclLoad}

section Failures

variable {failure : Failure}

theorem agenda_of_unresolved (hresolve : (c.resolveUser user).ending = .error failure) :
    agenda c user path = [.resolveUser user] := by
  simp [agenda, undecided?, probed?, resolved?, hresolve, Except.toOption]

theorem agenda_of_unprobed (hresolve : (c.resolveUser user).ending = .ok record)
    (hprobe : (c.probe path).ending = .error failure) :
    agenda c user path = [.resolveUser user, .probe path] := by
  simp [agenda, undecided?, probed?, resolved?, hresolve, hprobe, Except.toOption]

theorem agenda_of_unloaded (hresolve : (c.resolveUser user).ending = .ok record)
    (hprobe : (c.probe path).ending = .ok m)
    (hload : (c.loadAcl path m).ending = .error failure) :
    agenda c user path = [.resolveUser user, .probe path, .loadAcl path m] := by
  simp [agenda, undecided?, probed?, resolved?, hresolve, hprobe, hload, Except.toOption]

end Failures

theorem undecided?_of_loads (h : Loads c user path record m load) :
    undecided? c user path =
      if load.firstUnknown? = none ∧ ¬ load.Permits m (.user record.uid) then some record
      else none := by
  simp [undecided?, probed?, resolved?, h.resolves, h.probes, h.loads, Except.toOption,
    AclLoad.userPass_eq_denied_iff]

theorem agenda_of_loads (h : Loads c user path record m load) :
    agenda c user path =
      [.resolveUser user, .probe path, .loadAcl path m] ++
        if load.firstUnknown? = none ∧ ¬ load.Permits m (.user record.uid) then
          [.resolveGroups user record.primaryGid]
        else [] := by
  rw [agenda, undecided?_of_loads h]
  split <;> simp [probed?, resolved?, h.resolves, h.probes, Except.toOption]

theorem Proceeds.asked_eq_agenda {asked : List Consultation} {told : List Event}
    {ending : Except Failure Verdict} (h : Proceeds c user path asked told ending) :
    asked = agenda c user path := by
  cases h with
  | unresolved hresolve => exact (agenda_of_unresolved hresolve).symm
  | unprobed hresolve hprobe => exact (agenda_of_unprobed hresolve hprobe).symm
  | unloaded hresolve hprobe hload => exact (agenda_of_unloaded hresolve hprobe hload).symm
  | malformed hloads hunknown =>
      rw [agenda_of_loads hloads, if_neg, List.append_nil]
      rintro ⟨hknown, -⟩
      cases hknown.symm.trans hunknown
  | permitted hloads hknown hpermits =>
      rw [agenda_of_loads hloads, if_neg fun hasks => hasks.2 hpermits, List.append_nil]
  | unlisted hloads hknown hdenied hgroups =>
      rw [agenda_of_loads hloads, if_pos ⟨hknown, hdenied⟩]
      rfl
  | listed hloads hknown hdenied hgroups =>
      rw [agenda_of_loads hloads, if_pos ⟨hknown, hdenied⟩]
      rfl

/-- A query asks what is on its agenda. -/
theorem questions_run_eq_agenda (c : Collaborators) (user : String) (path : Path) :
    (run c user path).questions = agenda c user path := by
  rw [questions_run]
  exact (deliberate_proceeds c user path).asked_eq_agenda

/-- Each question on the agenda counts once. -/
theorem foldl_add_agenda (t : Consultation.Counts) (c : Collaborators) (user : String)
    (path : Path) :
    (agenda c user path).foldl .add t =
      ⟨t.users + 1, t.groups + (undecided? c user path).toList.length,
        t.probes + (resolved? c user).toList.length,
        t.loads + (probed? c user path).toList.length⟩ := by
  rw [agenda]
  cases resolved? c user <;> cases probed? c user path <;> cases undecided? c user path <;> rfl

end Agenda

end Query

namespace Session

/-! ## Several queries -/

section Runs

variable (c : Collaborators) (s : Session)

/-- One query: what it counts and records is added to the session, and how it
ends does not depend on the session. -/
theorem query_eq (user : String) (path : Path) :
    query c s user path =
      (Query.run c user path,
        ⟨⟨s.counts.users + 1, s.counts.groups + (Query.undecided? c user path).toList.length,
            s.counts.probes + (Query.resolved? c user).toList.length,
            s.counts.loads + (Query.probed? c user path).toList.length⟩,
          s.recorded ++ (Query.run c user path).events.map fun e => ⟨user, path, e⟩⟩) := by
  rw [query, observe, Query.questions_run_eq_agenda, Query.foldl_add_agenda]

theorem queries_cons (q : String × Path) (rest : List (String × Path)) :
    queries c s (q :: rest) =
      ((query c s q.1 q.2).1.ending :: (queries c (query c s q.1 q.2).2 rest).1,
        (queries c (query c s q.1 q.2).2 rest).2) := rfl

theorem queries_endings (qs : List (String × Path)) :
    (queries c s qs).1 = qs.map fun q => (Query.run c q.1 q.2).ending := by
  induction qs generalizing s with
  | nil => rfl
  | cons q rest ih =>
      rw [queries_cons, ih, query_eq]
      rfl

theorem countP_isSome_cons {α β : Type} (f : α → Option β) (a : α) (as : List α) :
    (a :: as).countP (fun a => (f a).isSome) =
      (f a).toList.length + as.countP fun a => (f a).isSome := by
  rw [List.countP_cons]
  cases f a with
  | none => simp
  | some b => simp [Nat.add_comm]

/-- The counts are the numbers of queries that got that far. -/
theorem queries_counts (qs : List (String × Path)) :
    (queries c s qs).2.counts =
      ⟨s.counts.users + qs.length,
        s.counts.groups + qs.countP fun q => (Query.undecided? c q.1 q.2).isSome,
        s.counts.probes + qs.countP fun q => (Query.resolved? c q.1).isSome,
        s.counts.loads + qs.countP fun q => (Query.probed? c q.1 q.2).isSome⟩ := by
  induction qs generalizing s with
  | nil => rfl
  | cons q rest ih =>
      rw [queries_cons, ih, query_eq]
      have hgroups := countP_isSome_cons (fun q => Query.undecided? c q.1 q.2) q rest
      have hprobes := countP_isSome_cons (fun q => Query.resolved? c q.1) q rest
      have hloads := countP_isSome_cons (fun q => Query.probed? c q.1 q.2) q rest
      simp only [Consultation.Counts.mk.injEq, List.length_cons]
      omega

theorem queries_recorded (qs : List (String × Path)) :
    (queries c s qs).2.recorded =
      s.recorded ++ qs.flatMap fun q => (query c .start q.1 q.2).2.recorded := by
  induction qs generalizing s with
  | nil => exact (List.append_nil _).symm
  | cons q rest ih =>
      rw [queries_cons, ih, List.flatMap_cons, ← List.append_assoc]
      simp only [query_eq, start, List.nil_append]

end Runs

section Tables

variable (d : Memory.Directory) (files : Memory.Files) (acls : Memory.Acls)

/-- On a fresh checker a query ends as over collaborators that do not count, and tells the
sink its events. -/
theorem query_of_fresh (user : String) (path : Path) :
    let c := Memory.collaborators d files acls
    let k := Memory.Checker.fresh d files acls
    (k.query user path).1 = (Query.run c user path).ending ∧
      (k.query user path).2.sink =
        (Query.run c user path).events.map fun e => ⟨user, path, e⟩ := by
  intro c k
  obtain ⟨hending, hsession, -⟩ := k.query_eq user path
  rw [query_eq] at hsession
  exact ⟨hending, congrArg recorded hsession⟩

/-- Queries end on one checker as each of them does on a fresh one.  The tables have counted
how many got as far as them, and the sink holds what each tells a fresh one. -/
theorem queries_of_fresh (qs : List (String × Path)) :
    let c := Memory.collaborators d files acls
    let k := Memory.Checker.fresh d files acls
    (k.queries qs).1 = qs.map (fun q => (k.query q.1 q.2).1) ∧
      (k.queries qs).2.session =
        ⟨⟨qs.length, qs.countP fun q => (Query.undecided? c q.1 q.2).isSome,
            qs.countP fun q => (Query.resolved? c q.1).isSome,
            qs.countP fun q => (Query.probed? c q.1 q.2).isSome⟩,
          qs.flatMap fun q => (k.query q.1 q.2).2.sink⟩ := by
  intro c k
  obtain ⟨hendings, hsession⟩ := k.queries_eq qs
  have hquery := fun q : String × Path => query_of_fresh d files acls q.1 q.2
  constructor
  · rw [hendings, queries_endings]
    exact List.map_congr_left fun q _ => (hquery q).1.symm
  · have hparts : (k.queries qs).2.session =
        ⟨(queries c .start qs).2.counts, (queries c .start qs).2.recorded⟩ := hsession
    have hsink : ∀ q : String × Path,
        (k.query q.1 q.2).2.sink = (query c .start q.1 q.2).2.recorded := by
      intro q
      rw [(hquery q).2, query_eq]
      rfl
    rw [hparts, queries_counts, queries_recorded]
    simp [start, Consultation.Counts.zero, hsink]

end Tables

/-- **A session asks, counts and records query by query.**  Over any tables, each
query asks what is on its agenda and ends as it would alone; the counts are the
numbers of queries that got that far, and the record is that of the queries alone,
one after the other, each event with its own user and path.  A checker whose tables
count their calls themselves, and whose sink takes in the events as they come, ends
up with the same. -/
theorem queries_of_tables (d : Memory.Directory) (files : Memory.Files) (acls : Memory.Acls)
    (qs : List (String × Path)) :
    let c := Memory.collaborators d files acls
    let k := Memory.Checker.fresh d files acls
    (∀ user path, (Query.run c user path).questions = Query.agenda c user path) ∧
      (queries c .start qs).1 = qs.map (fun q => (query c .start q.1 q.2).1.ending) ∧
      (queries c .start qs).2.counts =
        ⟨qs.length, qs.countP fun q => (Query.undecided? c q.1 q.2).isSome,
          qs.countP fun q => (Query.resolved? c q.1).isSome,
          qs.countP fun q => (Query.probed? c q.1 q.2).isSome⟩ ∧
      (queries c .start qs).2.recorded =
        qs.flatMap (fun q => (query c .start q.1 q.2).2.recorded) ∧
      (∀ user path, (query c .start user path).2.recorded =
        (Query.run c user path).events.map fun e => ⟨user, path, e⟩) ∧
      (k.queries qs).1 = qs.map (fun q => (k.query q.1 q.2).1) ∧
      (k.queries qs).2.session =
        ⟨⟨qs.length, qs.countP fun q => (Query.undecided? c q.1 q.2).isSome,
            qs.countP fun q => (Query.resolved? c q.1).isSome,
            qs.countP fun q => (Query.probed? c q.1 q.2).isSome⟩,
          qs.flatMap fun q => (k.query q.1 q.2).2.sink⟩ ∧
      ∀ user path, (k.query user path).1 = (Query.run c user path).ending ∧
        (k.query user path).2.sink =
          (Query.run c user path).events.map fun e => ⟨user, path, e⟩ := by
  intro c k
  obtain ⟨hendings, hsession⟩ := queries_of_fresh d files acls qs
  refine ⟨Query.questions_run_eq_agenda c, queries_endings c .start qs, ?_, ?_, ?_, hendings,
    hsession, query_of_fresh d files acls⟩
  · rw [queries_counts]
    simp [start, Consultation.Counts.zero]
  · rw [queries_recorded]
    rfl
  · intro user path
    rw [query_eq]
    rfl

end Session

end ReadAccess
