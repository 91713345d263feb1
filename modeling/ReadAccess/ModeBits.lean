/-
  One pass over the permission bits of a file's mode, for filesystems without
  access control lists.
-/
import ReadAccess.Event
import ReadAccess.Traced

set_option autoImplicit false

namespace ReadAccess.ModeBits

def ownerRead : UInt32 := 0o400

def groupRead : UInt32 := 0o040

def otherRead : UInt32 := 0o004

def has (mode bit : UInt32) : Bool := mode &&& bit != 0

/-- Whether the bits let the scope read.  The user alone may read what everyone
may read and, as the owner, what the owner may read; the groups may read what
the owning group may read, if that is one of them. -/
def allows (m : Metadata) : Scope → Bool
  | .user uid => has m.mode otherRead || (has m.mode ownerRead && uid == m.uid)
  | .group groups => has m.mode groupRead && groups.contains m.gid

/-- One pass over the mode bits, with one event for its verdict. -/
def pass {ε : Type} (m : Metadata) (scope : Scope) : Traced Event ε Verdict := do
  let verdict := Verdict.ofBool (allows m scope)
  .tell (.modePass scope.kind verdict)
  return verdict

end ReadAccess.ModeBits
