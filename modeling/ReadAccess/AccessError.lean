/-
  Why a query about a file gives no verdict.
-/
import ReadAccess.IoError
import ReadAccess.Path
import ReadAccess.Size

set_option autoImplicit false

namespace ReadAccess

/-- The kinds of failed queries. -/
inductive AccessError.Kind where
  | userNotFound
  | fileNotFound
  | malformedAcl
  | groupListOverflow
  | systemFailure
  deriving DecidableEq, Repr

/-- What makes an access control list impossible to interpret. -/
inductive AclDefect where
  | unknownTag (raw : UInt16)
  | unknownUser (name : String)
  | unknownGroup (name : String)
  /-- An entry is of a kind that no list should have. -/
  | unsupportedKind
  /-- A defect with a text of its own. -/
  | described (text : String)
  deriving DecidableEq, Repr

def AclDefect.message : AclDefect → String
  | .unknownTag raw => "unknown ACL tag 0x" ++ Text.hexadecimal raw.toNat
  | .unknownUser name => "unknown ACL user '" ++ name ++ "'"
  | .unknownGroup name => "unknown ACL group '" ++ name ++ "'"
  | .unsupportedKind => "unsupported ACL entry kind Unknown"
  | .described text => text

/-- What was being done when the system failed. -/
inductive SystemTask where
  | lookUpUser
  | statFile
  | readAcl
  | enumerateGroups
  | lookUpAclUser
  | lookUpAclGroup
  | described (text : String)
  deriving DecidableEq, Repr

def SystemTask.text : SystemTask → String
  | .lookUpUser => "look up user"
  | .statFile => "stat file"
  | .readAcl => "read ACL"
  | .enumerateGroups => "enumerate groups"
  | .lookUpAclUser => "look up ACL user"
  | .lookUpAclGroup => "look up ACL group"
  | .described text => text

/-- Why a query gives no verdict. -/
inductive AccessError where
  | userNotFound (user : String)
  | fileNotFound (path : Path)
  | malformedAcl (path : Path) (defect : AclDefect)
  /-- The user has more groups than a buffer may hold. -/
  | groupListOverflow (user : String) (requested : Size)
  | systemFailure (task : SystemTask) (source : IoError)
  deriving DecidableEq, Repr

namespace AccessError

def kind : AccessError → Kind
  | .userNotFound _ => .userNotFound
  | .fileNotFound _ => .fileNotFound
  | .malformedAcl .. => .malformedAcl
  | .groupListOverflow .. => .groupListOverflow
  | .systemFailure .. => .systemFailure

/-- The name of a kind, as the log shows it. -/
def Kind.name : Kind → String
  | .userNotFound => "UserNotFound"
  | .fileNotFound => "FileNotFound"
  | .malformedAcl => "UnsupportedAclQuery"
  | .groupListOverflow => "Overflow"
  | .systemFailure => "SystemError"

/-- The wording of an error in the stretches in which it is written out. -/
def pieces : AccessError → List String
  | .userNotFound user => ["unknown user '", user, "'"]
  | .fileNotFound path => "file not found: " :: path.pieces
  | .malformedAcl path defect =>
      "malformed ACL on " :: path.pieces ++ [": ", defect.message]
  | .groupListOverflow user requested =>
      ["group list for '", user, "' too large: ", requested.text, " entries"]
  | .systemFailure task source => ["failed to ", task.text, ": ", source.message]

def message (e : AccessError) : String := String.join e.pieces

/-- The failure below the decision that caused the error, if there is one. -/
def source? : AccessError → Option IoError
  | .systemFailure _ source => some source
  | _ => none

end AccessError

end ReadAccess
