/-
  Entries as they are exchanged with the host: principals by name.
-/
import ReadAccess.Permission

set_option autoImplicit false

namespace ReadAccess.Acl

/-- The kinds of exchanged entries. -/
inductive NamedKind where
  | user
  | group
  | mask
  | other
  | unknown
  deriving DecidableEq, Repr

/-- An entry with its principal by name.  The owner and the owning group have
the empty name. -/
structure NamedEntry where
  kind : NamedKind
  /-- The name of the user or group, or its number in base ten if it has no
  name. -/
  name : String
  permission : Permission
  deriving DecidableEq, Repr

end ReadAccess.Acl
