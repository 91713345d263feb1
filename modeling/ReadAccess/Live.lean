/-
  Collaborators that ask the host.
-/
import ReadAccess.Host.AccessLists
import ReadAccess.Host.Memberships
import ReadAccess.Query

set_option autoImplicit false

namespace ReadAccess.Live

open Text (RawText)
open Acl (Entry NamedEntry Tag)
open Groups (Attempt Listing ListingFault Policy)

def refuse {α : Type} (e : AccessError) : Answer α := .fail (.error e)

/-! ## Users and groups -/

/-- Finds a user by name.  The empty name and names with a NUL character are
nobody's. -/
def resolveUser (h : Host) (user : String) : Answer UserRecord :=
  if user.isEmpty || user.toList.contains '\x00' then refuse (.userNotFound user)
  else
    match h.userNamed (RawText.ofString user) with
    | .error code => refuse (.systemFailure .lookUpUser (.call code))
    | .ok none => ⟨[.note (.userUnknown user)], .error (.error (.userNotFound user))⟩
    | .ok (some account) =>
        let record : UserRecord := ⟨account.id, account.gid⟩
        ⟨[.note (.userFound user record)], .ok record⟩

/-- What an attempt to list groups does: the call, if it reaches the host, and
a note. -/
def attemptEffects (policy : Policy) (user : String) (gid : Gid) (a : Attempt) : List Effect :=
  (if Host.listingReaches user a.before.size then
    [.call (.listGroups user gid a.before.size)] else []) ++
  ((a.note? policy user).map Effect.note).toList

/-- Why a query has no verdict when a listing has no list. -/
def listingFailure (user : String) : ListingFault → Failure
  | .failed e => .error (.systemFailure .enumerateGroups e)
  | .overflow wanted => .error (.groupListOverflow user wanted)
  | .unallocatable => .aborted

def listingAnswer (policy : Policy) (user : String) (gid : Gid) (l : Listing) :
    Answer GroupList :=
  (l.expand (attemptEffects policy user gid)).mapError (listingFailure user)

/-- Lists the groups of a user.  Names with a NUL character are nobody's. -/
def resolveGroups (h : Host) (policy : Policy) (user : String) (gid : Gid) : Answer GroupList :=
  if user.toList.contains '\x00' then refuse (.userNotFound user)
  else listingAnswer policy user gid (Groups.list h.lister policy user gid ⟨⟩)

/-! ## Files -/

/-- Why a query has no verdict when owner and mode of a file cannot be taken. -/
def statError (path : Path) (code : Errno) : AccessError :=
  if code = .noEntry ∨ code = .notDirectory then .fileNotFound path
  else .systemFailure .statFile (.call code)

/-- Takes the owner and mode of a file.  A path with a NUL byte does not reach
the host. -/
def probe (h : Host) (path : Path) : Answer Metadata :=
  if path.hasNul then refuse (statError path .invalidArgument)
  else
    match h.stat path with
    | .error code => ⟨[.call (.stat path)], .error (.error (statError path code))⟩
    | .ok m => ⟨[.call (.stat path), .note (.fileOwned path m)], .ok m⟩

/-- The number of a principal by name.  A name that nobody has may be a number
in base ten. -/
def principalId {α : Type} (row : α → Host.Principal) (lookedUp : Except Errno (Option α))
    (task : SystemTask) (defect : AclDefect) (path : Path) (name : String) :
    Except AccessError UInt32 :=
  match lookedUp with
  | .error code => .error (.systemFailure task (.call code))
  | .ok (some a) => .ok (row a).id
  | .ok none =>
      match Text.readNumeral greatestId name.toList with
      | .ok n => .ok (UInt32.ofNat n)
      | .error _ => .error (.malformedAcl path defect)

def tagOf (h : Host) (path : Path) (e : NamedEntry) : Except AccessError Tag :=
  match e.kind with
  | .user =>
      if e.name.isEmpty then .ok .owner
      else (principalId Host.Account.toPrincipal (h.userNamed (RawText.ofString e.name))
        .lookUpAclUser (.unknownUser e.name) path e.name).map Tag.user
  | .group =>
      if e.name.isEmpty then .ok .owningGroup
      else (principalId id (h.groupNamed (RawText.ofString e.name))
        .lookUpAclGroup (.unknownGroup e.name) path e.name).map Tag.group
  | .mask => .ok .mask
  | .other => .ok .other
  | .unknown => .error (.malformedAcl path .unsupportedKind)

def entryOf (h : Host) (path : Path) (e : NamedEntry) : Except AccessError Entry :=
  (tagOf h path e).map fun tag => ⟨tag, e.permission.cut⟩

/-- Whether a failure to read an access control list means that the filesystem
has none. -/
def meansUnsupported (e : IoError) : Bool := e.code? == some .notSupported

/-- What follows from reading the list of a file: a list without entries says
what the mode says, and names are turned back into numbers. -/
def loadOf (h : Host) (path : Path) (m : Metadata) :
    Except IoError (List NamedEntry) → Answer AclLoad
  | .error e =>
      if meansUnsupported e then ⟨[.note (.aclUnsupported path)], .ok .unsupported⟩
      else refuse (.systemFailure .readAcl e)
  | .ok named =>
      if named.isEmpty then ⟨[.note (.aclMinimal path)], .ok (.entries (Acl.ofMode m.mode))⟩
      else
        match named.mapM (entryOf h path) with
        | .error e => refuse e
        | .ok entries =>
            ⟨[.note (.aclCarries path entries.length)], .ok (.entries ⟨entries⟩)⟩

/-- Loads the access control list of a file.  A path with a NUL byte does not
reach the host. -/
def loadAcl (h : Host) (path : Path) (m : Metadata) : Answer AclLoad :=
  (loadOf h path m (h.readAcl path)).after (if path.hasNul then [] else [.call (.readAcl path)])

/-- The collaborators that ask the host and size group buffers by a policy. -/
def collaborators (h : Host) (policy : Policy) : Collaborators where
  resolveUser := resolveUser h
  probe := probe h
  loadAcl := loadAcl h
  resolveGroups := resolveGroups h policy

end ReadAccess.Live
