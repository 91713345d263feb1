/-
  Users and groups as the system numbers them.
-/
set_option autoImplicit false

namespace ReadAccess

abbrev Uid := UInt32

abbrev Gid := UInt32

def greatestId : Nat := 0xFFFFFFFF

/-- What the directory knows of a user by name. -/
structure UserRecord where
  uid : Uid
  /-- The group every process of the user starts in. -/
  primaryGid : Gid
  deriving DecidableEq, Repr

/-- The groups of a user, in the order the directory gives them; a group may
come more than once. -/
structure GroupList where
  gids : List Gid
  deriving DecidableEq, Repr, Inhabited

namespace GroupList

/-- The number of memberships, repetitions included. -/
def size (groups : GroupList) : Nat := groups.gids.length

def isEmpty (groups : GroupList) : Bool := groups.gids.isEmpty

def contains (groups : GroupList) (gid : Gid) : Bool := groups.gids.contains gid

instance : Membership Gid GroupList := ⟨fun groups gid => gid ∈ groups.gids⟩

theorem contains_iff {groups : GroupList} {gid : Gid} :
    groups.contains gid = true ↔ gid ∈ groups :=
  List.contains_iff_mem

end GroupList

end ReadAccess
