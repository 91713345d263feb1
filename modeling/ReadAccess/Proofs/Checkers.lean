/-
  Checkers that count and record on their own.

  A query over collaborators leaves a course, and the same query on a checker leaves another
  checker.  Whatever the checker has counted and recorded before, the query ends on it as the
  course does; the tables have counted the questions of the course, and the sink has taken in
  its events (`Memory.Checker.query_eq`).  This holds of every step by which a query gets on,
  and is handed on from the steps to what is made up of them (`Memory.Checker.Follows`).
-/
import ReadAccess.Memory.Checker
import ReadAccess.Proofs.Decision

set_option autoImplicit false

namespace ReadAccess

/-! ## What a session observes of a sequence -/

theorem Session.observe_bind {α β : Type} (s : Session) (user : String) (path : Path)
    (x : Course α) (f : α → Course β) :
    s.observe user path (x >>= f) =
      match x.ending with
      | .error _ => s.observe user path x
      | .ok a => (s.observe user path x).observe user path (f a) := by
  cases hx : x.ending with
  | error failure => simp [observe, Course.questions_bind, Course.events_bind, hx]
  | ok a => simp [observe, Course.questions_bind, Course.events_bind, hx]

theorem Session.observe_ask {α : Type} (s : Session) (user : String) (path : Path)
    (q : Consultation) (answer : Answer α) :
    s.observe user path (Query.ask q answer) = s.question q := by
  simp [observe, question]

namespace Memory.Checker

/-- The collaborators that answer as the tables of a checker do. -/
def collaborators (k : Checker) : Collaborators :=
  Memory.collaborators k.directory.directory k.files.files k.acls.acls

/-- What is done to a checker follows a course: over the same tables it ends in the same way,
whatever was counted and recorded before, and the checker has observed the course. -/
def Follows {α : Type} (c : Collaborators) (user : String) (path : Path)
    (act : EStateM Failure Checker α) (course : Course α) : Prop :=
  ∀ k : Checker, k.collaborators = c →
    ∃ next : Checker, next.collaborators = c ∧
      next.session = k.session.observe user path course ∧
      act.run k = leave next course.ending

section Steps

variable {α β : Type} {c : Collaborators} {user : String} {path : Path}

theorem follows_pure (a : α) : Follows c user path (pure a) (pure a) :=
  fun k hk => ⟨k, hk, by simp [Session.observe], rfl⟩

/-- A sequence follows a sequence. -/
theorem Follows.bind {act : EStateM Failure Checker α} {course : Course α}
    {act' : α → EStateM Failure Checker β} {course' : α → Course β}
    (h : Follows c user path act course)
    (h' : ∀ a, Follows c user path (act' a) (course' a)) :
    Follows c user path (act >>= act') (course >>= course') := by
  intro k hk
  obtain ⟨next, hnext, hsession, hrun⟩ := h k hk
  rw [Session.observe_bind, Traced.bind_ending, EStateM.run_bind, hrun]
  cases hending : course.ending with
  | error failure => exact ⟨next, hnext, hsession, rfl⟩
  | ok a =>
      obtain ⟨last, hlast, hsession', hrun'⟩ := h' a next hnext
      exact ⟨last, hlast, hsession'.trans (by rw [hsession]), hrun'⟩

/-- A pass is reported to the sink. -/
theorem follows_report (pass : Traced Event AccessError α) :
    Follows c user path ((means user path).report pass) (Query.report pass) := by
  intro k hk
  refine ⟨k.record user path pass.trace, hk, ?_, ?_⟩
  · simp [Session.observe, session, record]
  · rw [Query.report_ending]
    rfl

theorem follows_emit (e : Event) :
    Follows c user path ((means user path).emit e) (Query.emit e) :=
  follows_report (.tell e)

/-- An answer follows its question if it is that of the collaborators, and the table that gives
it counts the question once. -/
theorem follows_answer {act : EStateM Failure Checker α} {question : Consultation}
    {answer : Answer α} (counted : Checker → Checker)
    (hsame : ∀ k, (counted k).collaborators = k.collaborators)
    (hcounts : ∀ k, (counted k).session = k.session.question question)
    (hanswer : ∀ k, k.collaborators = c → act.run k = leave (counted k) answer.ending) :
    Follows c user path act (Query.ask question answer) := by
  intro k hk
  refine ⟨counted k, (hsame k).trans hk, ?_, hanswer k hk⟩
  rw [hcounts, Session.observe_ask]

theorem follows_resolveUser (name : String) :
    Follows c user path ((means user path).resolveUser name)
      (Query.ask (.resolveUser name) (c.resolveUser name)) :=
  follows_answer (fun k => { k with directory := (k.directory.resolveUser name).2 })
    (fun _ => rfl) (fun _ => rfl) (by rintro k rfl; rfl)

theorem follows_probe (place : Path) :
    Follows c user path ((means user path).probe place)
      (Query.ask (.probe place) (c.probe place)) :=
  follows_answer (fun k => { k with files := (k.files.probe place).2 })
    (fun _ => rfl) (fun _ => rfl) (by rintro k rfl; rfl)

theorem follows_loadAcl (place : Path) (m : Metadata) :
    Follows c user path ((means user path).loadAcl place m)
      (Query.ask (.loadAcl place m) (c.loadAcl place m)) :=
  follows_answer (fun k => { k with acls := (k.acls.loadAcl place m).2 })
    (fun _ => rfl) (fun _ => rfl) (by rintro k rfl; rfl)

theorem follows_resolveGroups (name : String) (gid : Gid) :
    Follows c user path ((means user path).resolveGroups name gid)
      (Query.ask (.resolveGroups name gid) (c.resolveGroups name gid)) :=
  follows_answer (fun k => { k with directory := (k.directory.resolveGroups name gid).2 })
    (fun _ => rfl) (fun _ => rfl) (by rintro k rfl; rfl)

end Steps

/-! ## Whole queries -/

section Queries

variable (c : Collaborators) (user : String) (path : Path) (record : UserRecord) (m : Metadata)

theorem follows_groupsOf :
    Follows c user path ((means user path).groupsOf user record)
      (Query.groupsOf c user record) := by
  rw [Query.groupsOf_eq]
  exact (follows_resolveGroups user record.primaryGid).bind fun groups =>
    (follows_emit _).bind fun _ => follows_pure groups

theorem follows_byMode :
    Follows c user path ((means user path).byMode user record m)
      (Query.byMode c user record m) := by
  rw [Query.byMode_eq]
  refine (follows_emit _).bind fun _ => (follows_report _).bind fun verdict => ?_
  cases verdict with
  | allowed => exact follows_pure _
  | denied => exact (follows_groupsOf c user path record).bind fun groups => follows_report _

theorem follows_byLoad (load : AclLoad) :
    Follows c user path ((means user path).byLoad user path record m load)
      (Query.byLoad c user path record m load) := by
  rw [Query.byLoad_eq]
  refine (follows_report _).bind fun outcome => ?_
  cases outcome with
  | allowed => exact follows_pure _
  | denied =>
      exact (follows_groupsOf c user path record).bind fun groups =>
        (follows_report _).bind fun outcome => follows_pure _
  | unsupported => exact follows_byMode c user path record m

theorem follows_deliberate :
    Follows c user path ((means user path).deliberate user path)
      (Query.deliberate c user path) := by
  rw [Query.deliberate_eq]
  exact (follows_resolveUser user).bind fun record =>
    (follows_emit _).bind fun _ => (follows_probe path).bind fun m =>
      (follows_emit _).bind fun _ => (follows_loadAcl path m).bind fun load =>
        follows_byLoad c user path record m load

end Queries

variable (k : Checker)

/-- **A checker counts and records a query as a session does**, and the query ends as over
collaborators that do not count. -/
theorem query_eq (user : String) (path : Path) :
    (k.query user path).1 = (Query.run k.collaborators user path).ending ∧
      (k.query user path).2.session = (k.session.query k.collaborators user path).2 ∧
      (k.query user path).2.collaborators = k.collaborators := by
  obtain ⟨next, hnext, hsession, hrun⟩ := follows_deliberate k.collaborators user path k rfl
  have hobserve : (k.session.query k.collaborators user path).2 =
      ⟨next.session.counts, next.session.recorded ++
        (Query.closing (Query.deliberate k.collaborators user path).ending).map
          fun e => ⟨user, path, e⟩⟩ := by
    rw [hsession, Session.query, Session.observe, Query.questions_run, Query.events_run]
    simp [Session.observe]
  rw [query, hrun, hobserve]
  show _ = (Query.deliberate k.collaborators user path).ending ∧ _
  cases (Query.deliberate k.collaborators user path).ending with
  | ok verdict => exact ⟨rfl, rfl, hnext⟩
  | error failure => exact ⟨rfl, rfl, hnext⟩

/-- Several queries leave on a checker what they leave in a session. -/
theorem queries_eq (qs : List (String × Path)) :
    (k.queries qs).1 = (Session.queries k.collaborators k.session qs).1 ∧
      (k.queries qs).2.session = (Session.queries k.collaborators k.session qs).2 := by
  induction qs generalizing k with
  | nil => exact ⟨rfl, rfl⟩
  | cons q rest ih =>
      obtain ⟨user, path⟩ := q
      obtain ⟨hending, hsession, hsame⟩ := query_eq k user path
      obtain ⟨hendings, hlast⟩ := ih (k.query user path).2
      rw [hsession, hsame] at hendings hlast
      exact ⟨congr (congrArg List.cons hending) hendings, hlast⟩

end Memory.Checker

end ReadAccess
