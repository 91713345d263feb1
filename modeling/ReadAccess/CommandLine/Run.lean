/-
  Runs of the program: the paths of a request are checked in order, and every
  result is written before the next path is looked at.
-/
import ReadAccess.CommandLine.Request
import ReadAccess.CommandLine.Sink
import ReadAccess.CommandLine.Status
import ReadAccess.Filter
import ReadAccess.Live

set_option autoImplicit false

namespace ReadAccess.CommandLine

open Text (RawText)

/-- What can be seen of a run while it goes on. -/
inductive Happening where
  | call (call : HostCall)
  | log (line : LogLine)
  | out (text : RawText)
  | err (text : RawText)
  deriving DecidableEq, Repr

/-- Why a run has no status: a query broke off. -/
inductive Abort where
  | queryBrokeOff
  deriving DecidableEq, Repr

abbrev Run := Traced Happening Abort Status

/-- Where a run writes. -/
structure Channels where
  out : Sink
  err : Sink
  flushFails : Bool
  deriving DecidableEq, Repr

/-- Channels that take everything. -/
def Channels.unlimited : Channels := ⟨.endless, .endless, false⟩

/-! ## Lines -/

/-- The line for a verdict, in the stretches in which it is written. -/
def verdictPieces (path : Path) (verdict : Verdict) : List String :=
  verdict.text :: ": " :: path.pieces ++ ["\n"]

/-- The line for an error, in the stretches in which it is written. -/
def errorPieces (message : List String) : List String :=
  programName :: ": error: " :: message ++ ["\n"]

def hintPieces : List String := ["Try '", programName, " --help' for more information.\n"]

def versionPieces : List String := [programName, " ", version, "\n"]

/-! ## Checking paths -/

/-- What a step of the query of `user` about `path` shows. -/
def happenings (user : String) (path : Path) : Step → List Happening
  | .asks _ => []
  | .effect (.call c) => [.call c]
  | .effect (.note n) => [.log n.line]
  | .event e => [.log (e.line user path)]

/-- The status at the end: a flush that fails is a failure of the system. -/
def closingStatus (channels : Channels) (status : Status) : Status :=
  if channels.flushFails then max status .systemFailure else status

/-- The paths checked in order.  A result that cannot be written ends the run;
an error that cannot be written does not. -/
def checkPaths (c : Collaborators) (user : String) (quiet : Bool) :
    Channels → Status → List Path → Run
  | channels, status, [] => .value (closingStatus channels status)
  | channels, status, path :: rest =>
      let course := Query.run c user path
      let seen := course.trace.flatMap (happenings user path)
      match course.ending with
      | .error .aborted => ⟨seen, .error .queryBrokeOff⟩
      | .error (.error e) =>
          let written := channels.err.writeAll (errorPieces e.pieces)
          (checkPaths c user quiet { channels with err := written.sink }
            (max status (.ofKind e.kind)) rest).after (seen ++ [.err written.accepted])
      | .ok verdict =>
          if quiet then
            (checkPaths c user quiet channels (max status (.ofVerdict verdict)) rest).after seen
          else
            let written := channels.out.writeAll (verdictPieces path verdict)
            if written.complete then
              (checkPaths c user quiet { channels with out := written.sink }
                (max status (.ofVerdict verdict)) rest).after (seen ++ [.out written.accepted])
            else ⟨seen ++ [.out written.accepted], .ok .systemFailure⟩

/-! ## Whole runs -/

/-- Information written to the standard output. -/
def inform (channels : Channels) (pieces : List String) : Run :=
  let written := channels.out.writeAll pieces
  ⟨[.out written.accepted], .ok (if written.complete then .allowed else .systemFailure)⟩

/-- A rejected command line: the error, and a hint, each as far as it can be
written. -/
def reject (channels : Channels) (e : UsageError) : Run :=
  let error := channels.err.writeAll (errorPieces [e.message])
  let hint := error.sink.writeAll hintPieces
  ⟨[.err error.accepted, .err hint.accepted], .ok .usage⟩

/-- A request carried out.  Help comes before the version, and both before any
path. -/
def carryOut (h : Host) (channels : Channels) (r : Request) : Run :=
  if r.help then inform channels [helpText]
  else if r.version then inform channels versionPieces
  else
    match r.user with
    | none => reject channels .missingUser
    | some user =>
        checkPaths (Live.collaborators h r.policy) user r.quiet channels .allowed r.paths

/-- A run of the program on a host.  It reads no environment: where the filter that the
environment gives cannot be cut (an error of `filterOf`), the process ends with that error
before any path is checked, and there is no run. -/
def run (h : Host) (channels : Channels) (arguments : List RawText) : Run :=
  match Request.ofArguments arguments with
  | .error e => reject channels e
  | .ok r => carryOut h channels r

/-! ## What is seen from outside -/

/-- The text that goes to the standard output. -/
def stdout (trace : List Happening) : RawText :=
  ⟨trace.flatMap fun
    | .out text => text.bytes
    | _ => []⟩

/-- The text that goes to the standard error output through the program's own
channel. -/
def stderr (trace : List Happening) : RawText :=
  ⟨trace.flatMap fun
    | .err text => text.bytes
    | _ => []⟩

def calls (trace : List Happening) : List HostCall :=
  trace.filterMap fun
    | .call c => some c
    | _ => none

def logLines (trace : List Happening) : List LogLine :=
  trace.filterMap fun
    | .log l => some l
    | _ => none

/-- The filter of a run.  The environment counts only in a run that goes on to
check paths, and such a run is not begun if its filter cannot be cut. -/
def filterOf (arguments : List RawText) (environment : Option RawText) :
    Except Text.SplitCharacter Filter :=
  match Request.ofArguments arguments with
  | .error _ => .ok (.ofVerbosity .standard)
  | .ok r =>
      if r.isInformation then .ok (.ofVerbosity r.verbosity)
      else Filter.inForce r.verbosity environment

/-- Where a process shows text. -/
inductive Outlet where
  | out
  | err
  deriving DecidableEq, Repr

/-- What a process shows of a happening: results and errors, and on the standard
error output also the lines of the log that its filter lets through. -/
def Happening.shown? (filter : Filter) : Happening → Option (Outlet × RawText)
  | .call _ => none
  | .log l =>
      if filter.shows l.subsystem then some (.err, RawText.ofString (l.text ++ "\n")) else none
  | .out text => some (.out, text)
  | .err text => some (.err, text)

/-- What a process shows, in the order in which it comes. -/
def showing (filter : Filter) (trace : List Happening) : List (Outlet × RawText) :=
  trace.filterMap (Happening.shown? filter)

def shownAt (outlet : Outlet) (filter : Filter) (trace : List Happening) : RawText :=
  ⟨(showing filter trace).flatMap fun entry =>
    if entry.1 = outlet then entry.2.bytes else []⟩

/-- Whether a command line asks about files. -/
def asksHost (arguments : List RawText) : Bool :=
  match Request.ofArguments arguments with
  | .error _ => false
  | .ok r => !r.isInformation

end ReadAccess.CommandLine
