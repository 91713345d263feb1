/-
  Access control lists: entries that say who may do what with a file.
-/
import ReadAccess.Identity
import ReadAccess.Metadata
import ReadAccess.Permission
import ReadAccess.Text.Numeral

set_option autoImplicit false

namespace ReadAccess.Acl

/-- Whom an entry is about. -/
inductive Tag where
  | owner
  | user (uid : Uid)
  | owningGroup
  | group (gid : Gid)
  /-- The bound on what other entries grant. -/
  | mask
  /-- Everyone else. -/
  | other
  | unknown (raw : UInt16)
  deriving DecidableEq, Repr

namespace Tag

def text : Tag → String
  | .owner => "user::"
  | .user uid => "user:" ++ Text.decimal uid.toNat ++ ":"
  | .owningGroup => "group::"
  | .group gid => "group:" ++ Text.decimal gid.toNat ++ ":"
  | .mask => "mask::"
  | .other => "other::"
  | .unknown raw => "unknown(0x" ++ Text.hexadecimal raw.toNat ++ "):"

def isKnown : Tag → Bool
  | .unknown _ => false
  | _ => true

end Tag

/-- One line of an access control list. -/
structure Entry where
  tag : Tag
  permission : Permission
  deriving DecidableEq, Repr

end ReadAccess.Acl

namespace ReadAccess

/-- The access control list of a file, in stored order. -/
structure Acl where
  entries : List Acl.Entry
  deriving DecidableEq, Repr, Inhabited

namespace Acl

def size (acl : Acl) : Nat := acl.entries.length

def isEmpty (acl : Acl) : Bool := acl.entries.isEmpty

/-- The list that says the same as the permission bits of `mode`: one entry for
the owner, one for the owning group and one for everyone else. -/
def ofMode (mode : UInt32) : Acl :=
  ⟨[⟨.owner, .ofTriplet (mode >>> 6)⟩,
    ⟨.owningGroup, .ofTriplet (mode >>> 3)⟩,
    ⟨.other, .ofTriplet mode⟩]⟩

end Acl

/-- What asking for the access control list of a file gives. -/
inductive AclLoad where
  | entries (acl : Acl)
  /-- The filesystem has no access control lists. -/
  | unsupported
  deriving DecidableEq, Repr

end ReadAccess
