/-
  The options of the command line, and why a command line is rejected.
-/
import ReadAccess.Text.Controls
import ReadAccess.Text.Quoted
import ReadAccess.Text.Split
import ReadAccess.Verbosity.DebugFlags

set_option autoImplicit false

namespace ReadAccess.CommandLine

open Text (NumeralFault RawText)

/-- The name under which the program speaks. -/
def programName : String := "permcheck"

def version : String := "0.1.0"

/-- What the program says when it is asked for help, line by line. -/
def helpLines : List String := [
  "Usage: permcheck [OPTIONS] USER PATH...",
  "",
  "Reports whether USER may read each PATH, honouring POSIX access ACLs",
  "where the filesystem supports them and permission bits otherwise.",
  "",
  "Options:",
  "  -h, --help              Show this help message and exit.",
  "  -V, --version           Output version information and exit.",
  "  -v, --verbose           Increase diagnostic output (repeatable).",
  "  -q, --quiet             Suppress per-path results and warnings.",
  "      --debug=FLAGS       Set subsystem levels, e.g. acl2,identity",
  "                          (subsystems: acl, identity, probe, decision, all).",
  "      --initial-groups=N  First group buffer capacity (default 10).",
  "      --group-increment=N Group buffer growth step (default 100).",
  "",
  "Exit status: 0 all allowed, 1 any denied, 2 usage error, 3 unknown user,",
  "4 file not found, 5 malformed ACL, 6 group list overflow, 7 system error.",
  "The highest applicable status wins.",
  "",
  "The PERMCHECK_LOG environment variable overrides -v and --debug with",
  "tracing filter directives."]

def helpText : String := String.join (helpLines.map fun line => line ++ "\n")

/-- An option without a value. -/
inductive Switch where
  | help
  | version
  | verbose
  | quiet
  deriving DecidableEq, Repr

namespace Switch

def all : List Switch := [.help, .version, .verbose, .quiet]

def long : Switch → String
  | .help => "help"
  | .version => "version"
  | .verbose => "verbose"
  | .quiet => "quiet"

def short : Switch → Char
  | .help => 'h'
  | .version => 'V'
  | .verbose => 'v'
  | .quiet => 'q'

/-- How the switch is shown in messages; the one that may be repeated says
so. -/
def usage : Switch → String
  | .verbose => "--verbose..."
  | s => "--" ++ s.long

end Switch

/-- An option with a value. -/
inductive Setting where
  | debug
  | initialGroups
  | groupIncrement
  deriving DecidableEq, Repr

namespace Setting

def all : List Setting := [.debug, .initialGroups, .groupIncrement]

def long : Setting → String
  | .debug => "debug"
  | .initialGroups => "initial-groups"
  | .groupIncrement => "group-increment"

/-- How the setting is shown in messages. -/
def usage : Setting → String
  | .debug => "--debug <FLAGS>"
  | .initialGroups => "--initial-groups <N>"
  | .groupIncrement => "--group-increment <N>"

end Setting

/-- Why a command line is rejected. -/
inductive UsageError where
  /-- An argument looks like an option, but there is no such option. -/
  | unexpectedArgument (argument : String)
  | unexpectedValue (value : String) (switch : Switch)
  /-- A switch that may come once came again. -/
  | repeatedSwitch (switch : Switch)
  | repeatedSetting (setting : Setting)
  | missingValue (setting : Setting)
  /-- A value is no number. -/
  | invalidNumber (value : String) (setting : Setting) (fault : NumeralFault)
  /-- A value is not valid text. -/
  | invalidText
  | debugFlag (fault : FlagFault)
  /-- The name of the user is not valid text. -/
  | invalidUser (user : RawText)
  | missingUser
  | missingPath
  deriving DecidableEq, Repr

namespace UsageError

def firstLine (text : String) : String :=
  match Text.lines text.toList with
  | [] => ""
  | line :: _ => String.ofList line

/-- An argument between quotation marks, without terminal control sequences. -/
def quote (argument : String) : String :=
  "'" ++ String.ofList (Text.withoutControls .outside argument.toList) ++ "'"

/-- The wording of an error.  With a quoted argument, only the first line
counts. -/
def message : UsageError → String
  | .unexpectedArgument argument =>
      firstLine ("unexpected argument " ++ quote argument ++ " found")
  | .unexpectedValue value switch =>
      firstLine ("unexpected value " ++ quote value ++ " for '" ++ switch.usage ++
        "' found; no more were expected")
  | .repeatedSwitch switch =>
      "the argument '" ++ switch.usage ++ "' cannot be used multiple times"
  | .repeatedSetting setting =>
      "the argument '" ++ setting.usage ++ "' cannot be used multiple times"
  | .missingValue setting =>
      "a value is required for '" ++ setting.usage ++ "' but none was supplied"
  | .invalidNumber value setting fault =>
      firstLine ("invalid value " ++ quote value ++ " for '" ++ setting.usage ++ "': " ++
        fault.message)
  | .invalidText => "invalid UTF-8 was detected in one or more arguments"
  | .debugFlag fault => fault.message
  | .invalidUser user => "user name is not valid UTF-8: " ++ user.quoted
  | .missingUser => "missing USER operand"
  | .missingPath => "missing PATH operand"

end UsageError

end ReadAccess.CommandLine
