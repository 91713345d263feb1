/-
  The host: its users, its groups and its files, as plain data.
-/
import ReadAccess.Acl.Basic
import ReadAccess.Errno
import ReadAccess.Path

set_option autoImplicit false

namespace ReadAccess

open Text (RawText)

namespace Host

/-- A row of the user or group table. -/
structure Principal where
  name : RawText
  id : UInt32
  /-- The failure of every lookup that reaches the row by name. -/
  nameFault : Option Errno
  /-- The failure of every lookup that reaches the row by number. -/
  idFault : Option Errno
  byName : Bool
  byId : Bool
  deriving DecidableEq, Repr

/-- A user of the host. -/
structure Account extends Principal where
  gid : Gid
  /-- The further groups. -/
  groups : List Gid
  deriving DecidableEq, Repr

/-- What the host keeps as the access control list of a file. -/
inductive StoredAcl where
  /-- Nothing but the mode. -/
  | absent
  | unreadable (code : Errno)
  /-- These entries; a tag without meaning stands for an undefined one. -/
  | entries (entries : List Acl.Entry)
  deriving DecidableEq, Repr

/-- A file of the host. -/
structure File where
  path : Path
  uid : Uid
  gid : Gid
  mode : UInt32
  /-- The failure of taking owner and mode. -/
  statFault : Option Errno
  acl : StoredAcl
  /-- The failure of writing the access control list. -/
  storeFault : Option Errno
  deriving DecidableEq, Repr

/-- What a failed listing of groups leaves in its count. -/
inductive ShortReport where
  /-- The number of memberships. -/
  | required
  | capacity
  | fixed (count : Int)
  deriving DecidableEq, Repr

/-- How the host lists groups. -/
structure ListingHabit where
  shortReport : ShortReport
  /-- What a successful listing leaves in its count, if not the number of
  memberships. -/
  complete : Option Int
  neverFits : Bool
  deriving DecidableEq, Repr

end Host

/-- A host. -/
structure Host where
  /-- The users, in table order. -/
  users : List Host.Account
  groups : List Host.Principal
  files : List Host.File
  habit : Host.ListingHabit
  /-- The user on whose behalf the program runs. -/
  currentUid : Uid
  deriving DecidableEq, Repr

namespace Host

/-- A habit without surprises: a failed listing tells how many memberships there
are. -/
def ListingHabit.plain : ListingHabit := ⟨.required, none, false⟩

def empty : Host := ⟨[], [], [], .plain, 0⟩

/-! ## Lookups -/

/-- The first row that a name reaches, or the failure of that row. -/
def lookUpName {α : Type} (row : α → Principal) (table : List α) (name : RawText) :
    Except Errno (Option α) :=
  match table.find? fun a => (row a).byName && (row a).name == name with
  | none => .ok none
  | some a =>
      match (row a).nameFault with
      | some code => .error code
      | none => .ok (some a)

def lookUpId {α : Type} (row : α → Principal) (table : List α) (id : UInt32) :
    Except Errno (Option α) :=
  match table.find? fun a => (row a).byId && (row a).id == id with
  | none => .ok none
  | some a =>
      match (row a).idFault with
      | some code => .error code
      | none => .ok (some a)

def userNamed (h : Host) (name : RawText) : Except Errno (Option Account) :=
  lookUpName Account.toPrincipal h.users name

def userNumbered (h : Host) (uid : Uid) : Except Errno (Option Account) :=
  lookUpId Account.toPrincipal h.users uid

def groupNamed (h : Host) (name : RawText) : Except Errno (Option Principal) :=
  lookUpName id h.groups name

def groupNumbered (h : Host) (gid : Gid) : Except Errno (Option Principal) :=
  lookUpId id h.groups gid

/-- The file at exactly this path. -/
def fileAt? (h : Host) (path : Path) : Option File := h.files.find? fun f => f.path == path

def stat (h : Host) (path : Path) : Except Errno Metadata :=
  match h.fileAt? path with
  | none => .error .noEntry
  | some f =>
      match f.statFault with
      | some code => .error code
      | none => .ok ⟨f.uid, f.gid, f.mode⟩

/-- Why the name of the current user is not known. -/
inductive CurrentUserFault where
  | noEntry
  | lookup (code : Errno)
  deriving DecidableEq, Repr

def CurrentUserFault.message : CurrentUserFault → String
  | .noEntry => "current user has a passwd entry"
  | .lookup code => "passwd lookup: " ++ code.symbol

def currentUser (h : Host) : Except CurrentUserFault String :=
  match h.userNumbered h.currentUid with
  | .error code => .error (.lookup code)
  | .ok none => .error .noEntry
  | .ok (some account) => .ok account.name.shown

end Host

end ReadAccess
