/-
  Drafts of access control lists: entries collected one by one, with their
  permissions given as letters.
-/
import ReadAccess.Acl.Basic
import ReadAccess.Text.Quoted

set_option autoImplicit false

namespace ReadAccess

/-- Why a text is no permission. -/
inductive PermissionFault where
  | wrongLength (text : String)
  /-- The text holds a character that is no letter of a permission. -/
  | unexpected (c : Char) (text : String)
  deriving DecidableEq, Repr

def PermissionFault.message : PermissionFault → String
  | .wrongLength text =>
      "assertion `left == right` failed: permission must look like rwx: " ++ text ++
        "\n  left: " ++ Text.decimal text.utf8ByteSize ++ "\n right: 3"
  | .unexpected c text =>
      "unexpected permission character " ++ Text.quotedChar c ++ " in " ++ text

namespace Permission

/-- Letters read from left to right onto `granted`.  A dash grants nothing, and
any of the three letters grants what its place stands for. -/
def readLetters (text : String) (granted : Permission) :
    List (Char × Permission) → Except PermissionFault Permission
  | [] => .ok granted
  | (c, place) :: rest =>
      if c = '-' then readLetters text granted rest
      else if c = 'r' ∨ c = 'w' ∨ c = 'x' then readLetters text (granted ||| place) rest
      else .error (.unexpected c text)

/-- The permission that three letters write. -/
def ofText (text : String) : Except PermissionFault Permission :=
  if text.utf8ByteSize = 3 then
    readLetters text nothing (text.toList.zip [read, write, execute])
  else .error (.wrongLength text)

end Permission

namespace Acl

/-- A list of entries in the making, in the order in which they were added. -/
structure Draft where
  entries : List Entry
  deriving DecidableEq, Repr

namespace Draft

def empty : Draft := ⟨[]⟩

/-- A draft that says the same as the permission bits of `mode`. -/
def ofMode (mode : UInt32) : Draft := ⟨(Acl.ofMode mode).entries⟩

/-- The draft with one more entry, its permission given as letters. -/
def add (d : Draft) (tag : Tag) (text : String) : Except PermissionFault Draft :=
  (Permission.ofText text).map fun p => ⟨d.entries ++ [⟨tag, p⟩]⟩

end Draft

end Acl

end ReadAccess
