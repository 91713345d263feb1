/-
  Inventories: a host written down, one fact a line.

      user:NAME:UID:GID:GID,GID
      group:NAME:GID
      file:UID:GID:MODE:PATH
      acl:TAG:ID:PERMISSION

  The lines that begin with `acl` give the access control list of the file above
  them; the identifier is empty for the owner and the owning group, for the mask
  and for others.  A mode is written in base eight, every other number in base
  ten, and a path takes the rest of its line.  Empty lines are passed over.
-/
import ReadAccess.Acl.Draft
import ReadAccess.Host.Basic
import ReadAccess.Text.Split

set_option autoImplicit false

namespace ReadAccess.Host

open Text (RawText)

/-! ## Fields -/

/-- A field as a number no greater than a word. -/
def wordField? (field : List UInt8) : Option UInt32 := do
  let text ← (RawText.mk field).toString?
  let n ← (Text.readNumeral greatestId text.toList).toOption
  return UInt32.ofNat n

/-- Digits in base eight read from left to right onto `acc`. -/
def readOctal? : Nat → List UInt8 → Option Nat
  | acc, [] => some acc
  | acc, b :: rest =>
      if 48 ≤ b ∧ b ≤ 55 then readOctal? (8 * acc + (b.toNat - 48)) rest else none

def modeField? (field : List UInt8) : Option UInt32 := do
  let n ← readOctal? 0 field
  if field.isEmpty ∨ greatestId < n then none else return UInt32.ofNat n

/-- A field as numbers between commas, of which there may be none. -/
def wordsField? (field : List UInt8) : Option (List UInt32) :=
  if field.isEmpty then some [] else (Text.splitOn 44 field).mapM wordField?

def tagField? (word id : List UInt8) : Option Acl.Tag := do
  match (← (RawText.mk word).toString?), id.isEmpty with
  | "user", true => return .owner
  | "user", false => return .user (← wordField? id)
  | "group", true => return .owningGroup
  | "group", false => return .group (← wordField? id)
  | "mask", true => return .mask
  | "other", true => return .other
  | _, _ => none

def permissionField? (field : List UInt8) : Option Permission := do
  let text ← (RawText.mk field).toString?
  (Permission.ofText text).toOption

/-! ## Facts -/

/-- A fact of an inventory. -/
inductive Fact where
  | user (account : Account)
  | group (principal : Principal)
  | file (file : File)
  /-- The list of the file above has an entry. -/
  | entry (entry : Acl.Entry)
  deriving DecidableEq, Repr

/-- A principal that every lookup reaches. -/
def Principal.reachable (name : RawText) (id : UInt32) : Principal :=
  ⟨name, id, none, none, true, true⟩

/-- The fact of a line, from its first word and the fields behind it. -/
def Fact.ofFields? (word : String) (fields : List (List UInt8)) : Option Fact :=
  match word, fields with
  | "user", [name, uid, gid, groups] => do
      let principal := Principal.reachable ⟨name⟩ (← wordField? uid)
      return .user ⟨principal, ← wordField? gid, ← wordsField? groups⟩
  | "group", [name, gid] => do return .group (.reachable ⟨name⟩ (← wordField? gid))
  | "file", uid :: gid :: mode :: path => do
      let path : Path := ⟨List.intercalate [58] path⟩
      return .file ⟨path, ← wordField? uid, ← wordField? gid, ← modeField? mode, none, .absent,
        none⟩
  | "acl", [tag, id, permission] => do
      return .entry ⟨← tagField? tag id, ← permissionField? permission⟩
  | _, _ => none

def Fact.ofLine? (line : List UInt8) : Option Fact :=
  match Text.splitOn 58 line with
  | [] => none
  | word :: fields => (RawText.mk word).toString?.bind fun word => Fact.ofFields? word fields

/-! ## Hosts -/

def File.addEntry (f : File) (e : Acl.Entry) : File :=
  match f.acl with
  | .entries entries => { f with acl := .entries (entries ++ [e]) }
  | _ => { f with acl := .entries [e] }

/-- The files with one more entry in the list of the last one. -/
def addToLast? (e : Acl.Entry) : List File → Option (List File)
  | [] => none
  | [f] => some [f.addEntry e]
  | f :: rest => (addToLast? e rest).map (f :: ·)

def addFact? (h : Host) : Fact → Option Host
  | .user account => some { h with users := h.users ++ [account] }
  | .group principal => some { h with groups := h.groups ++ [principal] }
  | .file file => some { h with files := h.files ++ [file] }
  | .entry e => (addToLast? e h.files).map fun files => { h with files }

/-- The host with the facts of the lines from `number` on, or the number of the
first line that is no fact. -/
def addLines (h : Host) (number : Nat) : List (List UInt8) → Except Nat Host
  | [] => .ok h
  | line :: rest =>
      if line.isEmpty then h.addLines (number + 1) rest
      else
        match (Fact.ofLine? line).bind h.addFact? with
        | none => .error number
        | some next => next.addLines (number + 1) rest

/-- The host of an inventory, or the number of the first line that is no
fact. -/
def ofInventory (text : RawText) : Except Nat Host :=
  Host.empty.addLines 1 (Text.splitOn 10 text.bytes)

end ReadAccess.Host
