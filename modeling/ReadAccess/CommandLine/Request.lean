/-
  Requests: what a command line asks for.
-/
import ReadAccess.CommandLine.Scan
import ReadAccess.Groups.Policy
import ReadAccess.Path

set_option autoImplicit false

namespace ReadAccess.CommandLine

open Groups (Policy)
open Text (RawText)

/-- What a command line asks for. -/
structure Request where
  help : Bool
  version : Bool
  verbosity : Verbosity
  quiet : Bool
  policy : Policy
  user : Option String
  paths : List Path

namespace Found

/-- The verbosity before debug flags count. -/
def baseVerbosity (f : Found) : Verbosity := if f.quiet then .silent else .ofCount f.verbose

def verbosity (f : Found) : Except UsageError Verbosity :=
  (f.baseVerbosity.applyFlagLists f.debug).mapError .debugFlag

def policy (f : Found) : Policy :=
  let first := match f.initial with
    | some n => Policy.standard.withInitial n
    | none => .standard
  match f.increment with
  | some n => first.withIncrement n
  | none => first

/-- The user, who is the first operand. -/
def user (f : Found) : Except UsageError (Option String) :=
  match f.operands with
  | [] => .ok none
  | raw :: _ =>
      match raw.toString? with
      | some name => .ok (some name)
      | none => .error (.invalidUser raw)

/-- The paths, which are the operands behind the first. -/
def paths (f : Found) : List Path := f.operands.tail

end Found

namespace Request

/-- Whether a request is about the program and not about files. -/
def isInformation (r : Request) : Bool := r.help || r.version

/-- The request that was found, with the debug flags and the user checked in
this order. -/
def ofFound (f : Found) : Except UsageError Request := do
  let verbosity ← f.verbosity
  let user ← f.user
  return ⟨f.help, f.version, verbosity, f.quiet, f.policy, user, f.paths⟩

/-- The request, if it asks for information or has all its operands. -/
def checked (r : Request) : Except UsageError Request :=
  if r.isInformation then .ok r
  else if r.user.isNone then .error .missingUser
  else if r.paths.isEmpty then .error .missingPath
  else .ok r

/-- The request of a command line, whose first argument is the program. -/
def ofArguments (arguments : List RawText) : Except UsageError Request := do
  let found ← Scan.start.run arguments.tail
  let request ← ofFound found
  request.checked

end Request

end ReadAccess.CommandLine
