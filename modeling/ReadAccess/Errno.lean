/-
  Numbers by which the system says why a call failed.
-/
import ReadAccess.Text.Numeral

set_option autoImplicit false

namespace ReadAccess

/-- The kind of a failure, coarser than its number. -/
inductive FaultKind where
  | notFound
  | permissionDenied
  | timedOut
  | invalidInput
  | unsupported
  | storageFull
  | interrupted
  | outOfMemory
  | notADirectory
  | invalidFilename
  | filesystemLoop
  | connectionRefused
  | tooManyOpenFiles
  | inputOutputError
  | other
  | uncategorized
  deriving DecidableEq, Repr

/-- The text of a failure of which nothing but the kind is known. -/
def FaultKind.text : FaultKind → String
  | .notFound => "entity not found"
  | .permissionDenied => "permission denied"
  | .timedOut => "timed out"
  | .invalidInput => "invalid input parameter"
  | .unsupported => "unsupported"
  | .storageFull => "no storage space"
  | .interrupted => "operation interrupted"
  | .outOfMemory => "out of memory"
  | .notADirectory => "not a directory"
  | .invalidFilename => "invalid filename"
  | .filesystemLoop => "filesystem loop or indirection limit (e.g. symlink loop)"
  | .connectionRefused => "connection refused"
  | .tooManyOpenFiles => "too many open files"
  | .inputOutputError => "input/output error"
  | .other => "other error"
  | .uncategorized => "uncategorized error"

/-- The number of a failed call. -/
structure Errno where
  code : Nat
  deriving DecidableEq, Repr

namespace Errno

def noEntry : Errno := ⟨2⟩

def notDirectory : Errno := ⟨20⟩

def invalidArgument : Errno := ⟨22⟩

def notSupported : Errno := ⟨95⟩

/-- What is said of a number. -/
structure Description where
  code : Nat
  symbol : String
  text : String
  kind : FaultKind

def descriptions : List Description := [
  ⟨1, "EPERM", "Operation not permitted", .permissionDenied⟩,
  ⟨2, "ENOENT", "No such file or directory", .notFound⟩,
  ⟨4, "EINTR", "Interrupted system call", .interrupted⟩,
  ⟨5, "EIO", "Input/output error", .inputOutputError⟩,
  ⟨12, "ENOMEM", "Cannot allocate memory", .outOfMemory⟩,
  ⟨13, "EACCES", "Permission denied", .permissionDenied⟩,
  ⟨20, "ENOTDIR", "Not a directory", .notADirectory⟩,
  ⟨22, "EINVAL", "Invalid argument", .invalidInput⟩,
  ⟨24, "EMFILE", "Too many open files", .tooManyOpenFiles⟩,
  ⟨28, "ENOSPC", "No space left on device", .storageFull⟩,
  ⟨34, "ERANGE", "Numerical result out of range", .uncategorized⟩,
  ⟨36, "ENAMETOOLONG", "File name too long", .invalidFilename⟩,
  ⟨38, "ENOSYS", "Function not implemented", .unsupported⟩,
  ⟨40, "ELOOP", "Too many levels of symbolic links", .filesystemLoop⟩,
  ⟨61, "ENODATA", "No data available", .uncategorized⟩,
  ⟨75, "EOVERFLOW", "Value too large for defined data type", .uncategorized⟩,
  ⟨95, "EOPNOTSUPP", "Operation not supported", .unsupported⟩,
  ⟨110, "ETIMEDOUT", "Connection timed out", .timedOut⟩,
  ⟨111, "ECONNREFUSED", "Connection refused", .connectionRefused⟩]

def description? (e : Errno) : Option Description :=
  descriptions.find? fun d => d.code == e.code

def symbol (e : Errno) : String :=
  match e.description? with
  | some d => d.symbol
  | none => "UnknownErrno"

def text (e : Errno) : String :=
  match e.description? with
  | some d => d.text
  | none => "Unknown error " ++ Text.decimal e.code

/-- What is said of a failed call: what its number means, and the number. -/
def report (e : Errno) : String :=
  e.text ++ " (os error " ++ Text.decimal e.code ++ ")"

def kind (e : Errno) : FaultKind :=
  match e.description? with
  | some d => d.kind
  | none => .uncategorized

end Errno

end ReadAccess
