/-
  How the host reads and writes the access control list of a file.
-/
import ReadAccess.Acl.Canonical
import ReadAccess.Acl.Draft
import ReadAccess.Acl.Named
import ReadAccess.Host.Basic
import ReadAccess.IoError

set_option autoImplicit false

namespace ReadAccess.Host

open Text (RawText)
open Acl (Draft Entry NamedEntry)

/-! ## Reading -/

/-- The entries that the host keeps for a file, in stored order. -/
def File.storedEntries (f : File) : Except Errno (List Entry) :=
  match f.acl with
  | .absent => .ok (Acl.ofMode f.mode).entries
  | .unreadable code => .error code
  | .entries entries => .ok (Acl.storedOrder entries)

def storedEntries (h : Host) (path : Path) : Except Errno (List Entry) :=
  match h.fileAt? path with
  | none => .error .noEntry
  | some f => f.storedEntries

/-- The name of a number: as the table has it, or the number in base ten. -/
def nameOf {α : Type} (row : α → Principal) (table : List α) (id : UInt32) :
    Except Errno String :=
  match lookUpId row table id with
  | .error code => .error code
  | .ok none => .ok (Text.decimal id.toNat)
  | .ok (some a) => .ok (row a).name.shown

/-- A stored entry with its principal by name. -/
def nameEntry (h : Host) (e : Entry) : Except Errno NamedEntry :=
  match e.tag with
  | .owner => .ok ⟨.user, "", e.permission⟩
  | .user uid => (nameOf Account.toPrincipal h.users uid).map fun n => ⟨.user, n, e.permission⟩
  | .owningGroup => .ok ⟨.group, "", e.permission⟩
  | .group gid => (nameOf id h.groups gid).map fun n => ⟨.group, n, e.permission⟩
  | .mask => .ok ⟨.mask, "", e.permission⟩
  | .other => .ok ⟨.other, "", e.permission⟩
  | .unknown _ => .ok ⟨.unknown, "", e.permission⟩

/-- The access control list of a file, with principals by name.  A failed read
keeps no number of its own, but a failed lookup of a name does. -/
def readAcl (h : Host) (path : Path) : Except IoError (List NamedEntry) :=
  if path.hasNul then .error (.nulInPath path)
  else
    match h.storedEntries path with
    | .error code => .error (.onFile path code)
    | .ok entries =>
        match entries.mapM h.nameEntry with
        | .error code => .error (.call code)
        | .ok named => .ok named

/-! ## Writing -/

/-- The number that is stored for a number: it is handed over in base ten, and
that text may be somebody's name. -/
def storedId {α : Type} (row : α → Principal) (table : List α) (id : UInt32) :
    Except Errno UInt32 :=
  match lookUpName row table (RawText.ofString (Text.decimal id.toNat)) with
  | .error code => .error code
  | .ok none => .ok id
  | .ok (some a) => .ok (row a).id

def storedEntry (h : Host) (e : Entry) : Except Errno Entry :=
  match e.tag with
  | .user uid =>
      (storedId Account.toPrincipal h.users uid).map fun uid => ⟨.user uid, e.permission.cut⟩
  | .group gid => (storedId id h.groups gid).map fun gid => ⟨.group gid, e.permission.cut⟩
  | tag => .ok ⟨tag, e.permission.cut⟩

/-- The entries to store for `entries`, the first of which has the index
`index`, when `done` are there already.  No two may have one tag. -/
def collectEntries (h : Host) (index : Nat) (done : List Entry) :
    List Entry → Except InvalidAcl (List Entry)
  | [] => .ok done
  | e :: rest =>
      match h.storedEntry e with
      | .error code => .error (.lookup index code)
      | .ok stored =>
          if done.any fun d => d.tag == stored.tag then .error (.duplicate index stored.tag)
          else h.collectEntries (index + 1) (done ++ [stored]) rest

/-- Whether an entry is about one user or one group by number. -/
def isNamed (e : Entry) : Bool :=
  match e.tag with
  | .user _ => true
  | .group _ => true
  | _ => false

def isMasked (e : Entry) : Bool := isNamed e || e.tag == .owningGroup

/-- What the entries that a mask bounds grant together. -/
def maskedUnion (entries : List Entry) : Permission :=
  (entries.filter isMasked).foldl (fun p e => p ||| e.permission) .nothing

/-- The entries with a mask that bounds nothing, if they need a mask and have
none. -/
def withMask (entries : List Entry) : List Entry :=
  if entries.any isNamed && !(entries.any fun e => e.tag == .mask) then
    entries ++ [⟨.mask, maskedUnion entries⟩]
  else entries

def missingTag? (entries : List Entry) : Option Acl.Tag :=
  [Acl.Tag.owner, .owningGroup, .other].find? fun tag => !(entries.any fun e => e.tag == tag)

/-- The reason why entries without repetition are no valid list, if there is
one. -/
def invalid? (entries : List Entry) : Option InvalidAcl :=
  if entries.isEmpty then some .empty else (missingTag? entries).map .missing

def unstorable? (entries : List Entry) : Option UInt16 :=
  entries.findSome? fun e =>
    match e.tag with
    | .unknown raw => some raw
    | _ => none

/-- The files with another list for the first one at `path`. -/
def replaceAcl (path : Path) (acl : StoredAcl) : List File → List File
  | [] => []
  | f :: rest => if f.path == path then { f with acl } :: rest else f :: replaceAcl path acl rest

/-- Writes valid entries as the list of a file. -/
def writeEntries (path : Path) (entries : List Entry) : EStateM IoError Host Unit := do
  if path.hasNul then throw (.nulInPath path)
  else
    match (← get).fileAt? path with
    | none => throw (.onFile path .noEntry)
    | some f =>
        match f.storeFault with
        | some code => throw (.onFile path code)
        | none =>
            let acl := .entries (Acl.storedOrder (withMask entries))
            modify fun h => { h with files := replaceAcl path acl h.files }

/-- Writes a draft as the list of a file.  The entries are handed over by class;
all of them must be storable before any is looked at. -/
def writeDraft (path : Path) (draft : Draft) : EStateM IoError Host Unit := do
  let entries := Acl.handingOrder draft.entries
  match unstorable? entries with
  | some raw => throw (.unstorableTag raw)
  | none =>
      match (← get).collectEntries 0 [] entries with
      | .error reason => throw (.invalidAcl reason)
      | .ok collected =>
          match invalid? collected with
          | some reason => throw (.invalidAcl reason)
          | none => writeEntries path collected

def storeAcl (h : Host) (path : Path) (draft : Draft) : Except IoError Host :=
  match (writeDraft path draft).run h with
  | .ok _ next => .ok next
  | .error e _ => .error e

/-- The host after an attempt to write a draft, whatever comes of it. -/
def attempted (h : Host) (path : Path) (draft : Draft) : Host :=
  match (writeDraft path draft).run h with
  | .ok _ next => next
  | .error _ next => next

end ReadAccess.Host
