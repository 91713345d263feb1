/-
  Collaborators that answer from tables in memory.
-/
import ReadAccess.Query

set_option autoImplicit false

namespace ReadAccess.Memory

/-- The rows with the row of a key replaced, or added behind if there is
none. -/
def upsert {κ α : Type} (same : κ → κ → Bool) (key : κ) (a : α) : List (κ × α) → List (κ × α)
  | [] => [(key, a)]
  | row :: rest =>
      if same key row.1 then (key, a) :: rest else row :: upsert same key a rest

def find? {κ α : Type} (same : κ → κ → Bool) (key : κ) (rows : List (κ × α)) : Option α :=
  (rows.find? fun row => same key row.1).map Prod.snd

/-- After a row is put in, its key has its value, and every other key has what it
had.  Two keys are the same if `f` says the same of them. -/
theorem find?_upsert {κ α δ : Type} {same : κ → κ → Bool} {f : κ → δ}
    (hsame : ∀ p q, same p q = true ↔ f p = f q) (k key : κ) (a : α) (rows : List (κ × α)) :
    find? same k (upsert same key a rows) = if same k key then some a else find? same k rows := by
  induction rows with
  | nil => by_cases hk : same k key = true <;> simp [upsert, find?, hk]
  | cons row rest ih =>
      simp only [find?] at ih ⊢
      by_cases hrow : same key row.1 = true
      · -- The row that is replaced has the new key, so it answers for no other.
        have hkey : same k row.1 = same k key := by
          rw [Bool.eq_iff_iff, hsame, hsame, (hsame _ _).mp hrow]
        rw [upsert, if_pos hrow]
        simp only [List.find?_cons, hkey]
        cases same k key <;> simp
      · have hother : same k row.1 = true → same k key = false := by
          intro hk
          rw [Bool.eq_false_iff]
          intro hkey
          exact hrow ((hsame _ _).mpr (((hsame _ _).mp hkey).symm.trans ((hsame _ _).mp hk)))
        rw [upsert, if_neg hrow]
        simp only [List.find?_cons]
        cases hk : same k row.1 with
        | true => simp [hother hk]
        | false => exact ih

/-- Whether two paths have the same components. -/
def samePath (p q : Path) : Bool := p.components == q.components

/-! ## The directory -/

/-- What the directory knows of a user. -/
structure Member where
  record : UserRecord
  groups : GroupList
  deriving DecidableEq, Repr

structure Directory where
  members : List (String × Member)
  reachable : Bool
  deriving Repr

namespace Directory

def empty : Directory := ⟨[], true⟩

/-- The directory with one more user; one of the same name is replaced. -/
def add (d : Directory) (name : String) (record : UserRecord) (groups : GroupList) : Directory :=
  { d with members := upsert (· == ·) name ⟨record, groups⟩ d.members }

def unreachable (d : Directory) : Directory := { d with reachable := false }

def member? (d : Directory) (name : String) : Option Member := find? (· == ·) name d.members

def resolveUser (d : Directory) (user : String) : Answer UserRecord :=
  match d.member? user with
  | some m => .value m.record
  | none => .fail (.error (.userNotFound user))

/-- Lists the groups of a user, whatever primary group is given. -/
def resolveGroups (d : Directory) (user : String) (_primaryGid : Gid) : Answer GroupList :=
  if d.reachable then
    match d.member? user with
    | some m => .value m.groups
    | none => .fail (.error (.userNotFound user))
  else .fail (.error (.systemFailure .enumerateGroups .directoryUnreachable))

end Directory

/-! ## Files -/

/-- A table of regular files by path. -/
structure Files where
  /-- The files; alike paths are one. -/
  rows : List (Path × Metadata)
  deriving Repr

namespace Files

def empty : Files := ⟨[]⟩

/-- The mode of a regular file with these permission bits. -/
def regular (bits : UInt32) : UInt32 := 0o100000 ||| bits

/-- The table with one more file; one at a path alike is replaced. -/
def add (t : Files) (path : Path) (uid : Uid) (gid : Gid) (bits : UInt32) : Files :=
  ⟨upsert samePath path ⟨uid, gid, regular bits⟩ t.rows⟩

def probe (t : Files) (path : Path) : Answer Metadata :=
  match find? samePath path t.rows with
  | some m => .value m
  | none => .fail (.error (.fileNotFound path))

end Files

/-! ## Access control lists -/

/-- What loading the list of a file gives. -/
inductive AclState where
  | entries (acl : Acl)
  | malformed (reason : String)
  | failing
  deriving DecidableEq, Repr

/-- A table of access control lists by path. -/
structure Acls where
  rows : List (Path × AclState)
  /-- Files without a row have the list that says what their mode says, not
  none at all. -/
  minimalByDefault : Bool
  deriving Repr

namespace Acls

/-- A table in which no file has a list. -/
def unsupported : Acls := ⟨[], false⟩

/-- A table in which every file has the list that says what its mode says. -/
def minimal : Acls := ⟨[], true⟩

def add (t : Acls) (path : Path) (state : AclState) : Acls :=
  { t with rows := upsert samePath path state t.rows }

def loadAcl (t : Acls) (path : Path) (m : Metadata) : Answer AclLoad :=
  match find? samePath path t.rows with
  | some (.entries acl) => .value (.entries acl)
  | some (.malformed reason) => .fail (.error (.malformedAcl path (.described reason)))
  | some .failing => .fail (.error (.systemFailure .readAcl (.plain .permissionDenied)))
  | none => .value (if t.minimalByDefault then .entries (.ofMode m.mode) else .unsupported)

end Acls

/-- The collaborators that answer from three tables. -/
def collaborators (d : Directory) (files : Files) (acls : Acls) : Collaborators where
  resolveUser := d.resolveUser
  probe := files.probe
  loadAcl := acls.loadAcl
  resolveGroups := d.resolveGroups

end ReadAccess.Memory
