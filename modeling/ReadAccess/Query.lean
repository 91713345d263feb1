/-
  The query: may this user read this file?

  A query asks its four collaborators in turn and stops as soon as the answer
  is certain.  The groups of the user, which are the most expensive thing to
  ask for, are asked for only if the pass for the user alone does not allow
  reading.
-/
import ReadAccess.Acl.Pass
import ReadAccess.Effect
import ReadAccess.ModeBits

set_option autoImplicit false

namespace ReadAccess

/-- Why a query has no verdict. -/
inductive Failure where
  | error (e : AccessError)
  /-- The query broke off: its first group buffer is larger than any
  allocation. -/
  | aborted
  deriving DecidableEq, Repr

def Failure.abortText : String := "capacity overflow"

/-- A question that a query puts to one of its collaborators. -/
inductive Consultation where
  | resolveUser (user : String)
  | probe (path : Path)
  | loadAcl (path : Path) (metadata : Metadata)
  | resolveGroups (user : String) (primaryGid : Gid)
  deriving DecidableEq, Repr

/-- An answer of a collaborator, with what it did to find it. -/
abbrev Answer (α : Type) := Traced Effect Failure α

/-- The collaborators of a query. -/
structure Collaborators where
  resolveUser : String → Answer UserRecord
  probe : Path → Answer Metadata
  loadAcl : Path → Metadata → Answer AclLoad
  resolveGroups : String → Gid → Answer GroupList

/-- What happens in the course of a query. -/
inductive Step where
  | asks (question : Consultation)
  | effect (effect : Effect)
  | event (event : Event)
  deriving DecidableEq, Repr

namespace Step

def event? : Step → Option Event
  | .event e => some e
  | _ => none

def question? : Step → Option Consultation
  | .asks q => some q
  | _ => none

def call? : Step → Option HostCall
  | .effect e => e.call?
  | _ => none

def line? (user : String) (path : Path) : Step → Option LogLine
  | .asks _ => none
  | .effect e => e.line?
  | .event e => some (e.line user path)

end Step

/-- The course of a query, and its verdict or failure. -/
abbrev Course (α : Type) := Traced Step Failure α

namespace Course

variable {α : Type}

def events (c : Course α) : List Event := c.trace.filterMap Step.event?

def questions (c : Course α) : List Consultation := c.trace.filterMap Step.question?

def calls (c : Course α) : List HostCall := c.trace.filterMap Step.call?

def lines (user : String) (path : Path) (c : Course α) : List LogLine :=
  c.trace.filterMap (Step.line? user path)

end Course

namespace Query

/-- A question and what its answer brings. -/
def ask {α : Type} (question : Consultation) (answer : Answer α) : Course α :=
  (answer.expand fun e => [.effect e]).after [.asks question]

/-- Events alone, as part of a course. -/
def report {α : Type} (x : Traced Event AccessError α) : Course α :=
  (x.expand fun e => [.event e]).mapError .error

def emit (e : Event) : Course PUnit := .tell (.event e)

/-! ## The decision -/

/-- The means of a query: it puts questions to its collaborators, and reports events.  What
comes of that is up to `M`. -/
structure Means (M : Type → Type) where
  resolveUser : String → M UserRecord
  probe : Path → M Metadata
  loadAcl : Path → Metadata → M AclLoad
  resolveGroups : String → Gid → M GroupList
  /-- Events are reported, and then there is the value or the error that they lead to. -/
  report {α : Type} : Traced Event AccessError α → M α

namespace Means

variable {M : Type → Type} [Monad M] (means : Means M)

def emit (e : Event) : M PUnit := means.report (.tell e)

/-- The groups of a user, with an event for their number. -/
def groupsOf (user : String) (record : UserRecord) : M GroupList := do
  let groups ← means.resolveGroups user record.primaryGid
  means.emit (.groupsResolved groups.size)
  return groups

/-- The decision by mode bits: the pass for the user alone, and the pass for
the groups if that one does not allow reading. -/
def byMode (user : String) (record : UserRecord) (m : Metadata) : M Verdict := do
  means.emit .aclUnsupported
  match ← means.report (ModeBits.pass m (.user record.uid)) with
  | .allowed => return .allowed
  | .denied =>
      let groups ← means.groupsOf user record
      means.report (ModeBits.pass m (.group groups))

/-- The decision once the access control list is loaded. -/
def byLoad (user : String) (path : Path) (record : UserRecord) (m : Metadata)
    (load : AclLoad) : M Verdict := do
  match ← means.report (load.pass path m (.user record.uid)) with
  | .allowed => return .allowed
  | .denied =>
      let groups ← means.groupsOf user record
      let outcome ← means.report (load.pass path m (.group groups))
      return .ofBool (outcome == .allowed)
  | .unsupported => means.byMode user record m

/-- The decision, with the user, the metadata and the access control list asked
for in this order. -/
def deliberate (user : String) (path : Path) : M Verdict := do
  let record ← means.resolveUser user
  means.emit (.userResolved record.uid)
  let m ← means.probe path
  means.emit (.metadataProbed m)
  let load ← means.loadAcl path m
  means.byLoad user path record m load

/-- Over collaborators a query leaves a course. -/
def ofCollaborators (c : Collaborators) : Means (Traced Step Failure) where
  resolveUser user := ask (.resolveUser user) (c.resolveUser user)
  probe path := ask (.probe path) (c.probe path)
  loadAcl path m := ask (.loadAcl path m) (c.loadAcl path m)
  resolveGroups user gid := ask (.resolveGroups user gid) (c.resolveGroups user gid)
  report := Query.report

end Means

section Courses

variable (c : Collaborators) (user : String) (path : Path) (record : UserRecord) (m : Metadata)

def groupsOf : Course GroupList := (Means.ofCollaborators c).groupsOf user record

def byMode : Course Verdict := (Means.ofCollaborators c).byMode user record m

def byLoad (load : AclLoad) : Course Verdict :=
  (Means.ofCollaborators c).byLoad user path record m load

def deliberate : Course Verdict := (Means.ofCollaborators c).deliberate user path

/-! The same with the questions and events of a course. -/

theorem groupsOf_eq : groupsOf c user record = (do
    let groups ← ask (.resolveGroups user record.primaryGid)
      (c.resolveGroups user record.primaryGid)
    emit (.groupsResolved groups.size)
    return groups) := rfl

theorem byMode_eq : byMode c user record m = (do
    emit .aclUnsupported
    match ← report (ModeBits.pass m (.user record.uid)) with
    | .allowed => return .allowed
    | .denied =>
        let groups ← groupsOf c user record
        report (ModeBits.pass m (.group groups))) := rfl

theorem byLoad_eq (load : AclLoad) : byLoad c user path record m load = (do
    match ← report (load.pass path m (.user record.uid)) with
    | .allowed => return .allowed
    | .denied =>
        let groups ← groupsOf c user record
        let outcome ← report (load.pass path m (.group groups))
        return .ofBool (outcome == .allowed)
    | .unsupported => byMode c user record m) := rfl

theorem deliberate_eq : deliberate c user path = (do
    let record ← ask (.resolveUser user) (c.resolveUser user)
    emit (.userResolved record.uid)
    let m ← ask (.probe path) (c.probe path)
    emit (.metadataProbed m)
    let load ← ask (.loadAcl path m) (c.loadAcl path m)
    byLoad c user path record m load) := rfl

end Courses

/-- The event that ends a query.  A query that broke off has none. -/
def closing : Except Failure Verdict → List Event
  | .ok verdict => [.finished verdict]
  | .error (.error e) => [.failed e.kind]
  | .error .aborted => []

/-- A query: the decision, and an event that says how it ended. -/
def run (c : Collaborators) (user : String) (path : Path) : Course Verdict :=
  let course := deliberate c user path
  ⟨course.trace ++ (closing course.ending).map .event, course.ending⟩

end Query

end ReadAccess
