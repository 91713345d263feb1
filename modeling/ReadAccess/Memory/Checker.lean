/-
  A checker over tables in memory.

  Each table counts the calls that it answers, and a sink takes in the events
  while a query goes on.  A query is the same program as over any collaborators;
  here it is run on the checker itself, which is left changed whether the query
  has a verdict or not.
-/
import ReadAccess.Memory
import ReadAccess.Session

set_option autoImplicit false

namespace ReadAccess.Memory

/-! ## Tables that count -/

structure CountingDirectory where
  directory : Directory
  userLookups : Nat
  groupLookups : Nat
  deriving Repr

namespace CountingDirectory

def resolveUser (d : CountingDirectory) (user : String) :
    Answer UserRecord × CountingDirectory :=
  let d := { d with userLookups := d.userLookups + 1 }
  (d.directory.resolveUser user, d)

def resolveGroups (d : CountingDirectory) (user : String) (primaryGid : Gid) :
    Answer GroupList × CountingDirectory :=
  let d := { d with groupLookups := d.groupLookups + 1 }
  (d.directory.resolveGroups user primaryGid, d)

end CountingDirectory

structure CountingFiles where
  files : Files
  probes : Nat
  deriving Repr

def CountingFiles.probe (t : CountingFiles) (path : Path) : Answer Metadata × CountingFiles :=
  let t := { t with probes := t.probes + 1 }
  (t.files.probe path, t)

structure CountingAcls where
  acls : Acls
  loads : Nat
  deriving Repr

def CountingAcls.loadAcl (t : CountingAcls) (path : Path) (m : Metadata) :
    Answer AclLoad × CountingAcls :=
  let t := { t with loads := t.loads + 1 }
  (t.acls.loadAcl path m, t)

/-! ## The checker -/

/-- Three tables and a sink, with all that was counted and recorded so far. -/
structure Checker where
  directory : CountingDirectory
  files : CountingFiles
  acls : CountingAcls
  sink : List RecordedEvent
  deriving Repr

namespace Checker

/-- A checker before its first query. -/
def fresh (d : Directory) (files : Files) (acls : Acls) : Checker :=
  ⟨⟨d, 0, 0⟩, ⟨files, 0⟩, ⟨acls, 0⟩, []⟩

/-- What a checker has counted and recorded. -/
def session (k : Checker) : Session :=
  ⟨⟨k.directory.userLookups, k.directory.groupLookups, k.files.probes, k.acls.loads⟩, k.sink⟩

/-- The checker after the sink has taken in events of a query. -/
def record (k : Checker) (user : String) (path : Path) (events : List Event) : Checker :=
  { k with sink := k.sink ++ events.map fun e => ⟨user, path, e⟩ }

/-- A value or a failure, and the checker in either case. -/
def leave {α : Type} (k : Checker) : Except Failure α → EStateM.Result Failure Checker α
  | .ok a => .ok a k
  | .error failure => .error failure k

/-- What a query of `user` about `path` does to a checker. -/
def means (user : String) (path : Path) : Query.Means (EStateM Failure Checker) where
  resolveUser name := fun k =>
    let (answer, directory) := k.directory.resolveUser name
    leave { k with directory } answer.ending
  probe place := fun k =>
    let (answer, files) := k.files.probe place
    leave { k with files } answer.ending
  loadAcl place m := fun k =>
    let (answer, acls) := k.acls.loadAcl place m
    leave { k with acls } answer.ending
  resolveGroups name gid := fun k =>
    let (answer, directory) := k.directory.resolveGroups name gid
    leave { k with directory } answer.ending
  report pass := fun k => leave (k.record user path pass.trace) (pass.ending.mapError .error)

/-- A query, and the checker after it. -/
def query (k : Checker) (user : String) (path : Path) : Except Failure Verdict × Checker :=
  match ((means user path).deliberate user path).run k with
  | .ok verdict next => (.ok verdict, next.record user path (Query.closing (.ok verdict)))
  | .error failure next =>
      (.error failure, next.record user path (Query.closing (.error failure)))

/-- Several queries, one after the other. -/
def queries (k : Checker) : List (String × Path) → List (Except Failure Verdict) × Checker
  | [] => ([], k)
  | (user, path) :: rest =>
      let (ending, next) := k.query user path
      let (endings, last) := next.queries rest
      (ending :: endings, last)

end Checker

end ReadAccess.Memory
