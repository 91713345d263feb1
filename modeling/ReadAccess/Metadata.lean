/-
  Owner and mode of a file, taken once for a query.
-/
import ReadAccess.Identity

set_option autoImplicit false

namespace ReadAccess

/-- The owner and the mode of a file at one moment. -/
structure Metadata where
  uid : Uid
  gid : Gid
  /-- File type and permission bits. -/
  mode : UInt32
  deriving DecidableEq, Repr

namespace Metadata

/-- The mode without the file type. -/
def permissions (m : Metadata) : UInt32 := m.mode &&& 0o7777

end Metadata

end ReadAccess
