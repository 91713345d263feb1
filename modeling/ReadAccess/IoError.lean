/-
  Failures of input and output: what went wrong below the decision.
-/
import ReadAccess.Acl.Basic
import ReadAccess.Errno
import ReadAccess.Text.Quoted

set_option autoImplicit false

namespace ReadAccess

/-- Why a list of entries cannot be stored as an access control list. -/
inductive InvalidAcl where
  /-- The principal of the entry at `index` cannot be looked up. -/
  | lookup (index : Nat) (code : Errno)
  /-- The entry at `index` has the same tag as one before it. -/
  | duplicate (index : Nat) (tag : Acl.Tag)
  /-- There are entries, but none with the required tag. -/
  | missing (tag : Acl.Tag)
  | empty
  deriving DecidableEq, Repr

namespace InvalidAcl

/-- The principal of a tag, without the closing colon of its written form. -/
def principal : Acl.Tag → String
  | .owner => "user"
  | .user uid => "user:" ++ Text.decimal uid.toNat
  | .owningGroup => "group"
  | .group gid => "group:" ++ Text.decimal gid.toNat
  | .mask => "mask"
  | .other => "other"
  | .unknown raw => "unknown:" ++ Text.decimal raw.toNat

def message : InvalidAcl → String
  | .lookup index code =>
      "Invalid ACL: entry " ++ Text.decimal index ++ ": " ++ code.report
  | .duplicate index tag =>
      "Invalid ACL: entry " ++ Text.decimal index ++ ": duplicate entry for \"" ++
        principal tag ++ "\""
  | .missing tag => "Invalid ACL: missing required entry \"" ++ principal tag ++ "\""
  | .empty => "Invalid ACL: missing required entries"

end InvalidAcl

/-- A failure below the decision. -/
inductive IoError where
  | call (code : Errno)
  /-- A failure of this kind, and nothing more is known. -/
  | plain (kind : FaultKind)
  | described (kind : FaultKind) (text : String)
  /-- A call about a file failed; its number is no longer at hand. -/
  | onFile (path : Text.RawText) (code : Errno)
  | nulInPath (path : Text.RawText)
  | nulInUserName
  /-- A group buffer has more slots than can be counted. -/
  | bufferTooLarge
  | unstorableTag (raw : UInt16)
  | invalidAcl (reason : InvalidAcl)
  | directoryUnreachable
  | answersExhausted
  deriving DecidableEq, Repr

namespace IoError

def kind : IoError → FaultKind
  | .call code => code.kind
  | .plain kind => kind
  | .described kind _ => kind
  | .onFile _ code => code.kind
  | .nulInPath _ => .invalidInput
  | .nulInUserName => .invalidInput
  | .bufferTooLarge => .invalidInput
  | .unstorableTag _ => .invalidInput
  | .invalidAcl _ => .other
  | .directoryUnreachable => .timedOut
  | .answersExhausted => .other

/-- The number of the failed call, as long as it is at hand. -/
def code? : IoError → Option Errno
  | .call code => some code
  | _ => none

def message : IoError → String
  | .call code => code.report
  | .plain kind => kind.text
  | .described _ text => text
  | .onFile path code => "File " ++ path.quoted ++ ": " ++ code.report
  | .nulInPath path => "File " ++ path.quoted ++ ": data provided contains a nul byte"
  | .nulInUserName => "user name contains NUL"
  | .bufferTooLarge => "group buffer too large"
  | .unstorableTag raw => "cannot store ACL tag 0x" ++ Text.hexadecimal raw.toNat
  | .invalidAcl reason => reason.message
  | .directoryUnreachable => "directory unreachable"
  | .answersExhausted => "script exhausted"

end IoError

end ReadAccess
