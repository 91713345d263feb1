/-
  The program.  Its arguments come from the command line and its log filter
  from the environment.  The host is read as an inventory from the standard
  input, unless the arguments ask nothing about files.
-/
import ReadAccess.CommandLine.Run
import ReadAccess.Host.Inventory

set_option autoImplicit false

namespace ReadAccess.CommandLine

open Text (RawText)

def putText (outlet : Outlet) (text : RawText) : IO Unit := do
  let stream ← match outlet with
    | .out => IO.getStdout
    | .err => IO.getStderr
  stream.write ⟨text.bytes.toArray⟩
  stream.flush

def putError (message : String) : IO Unit :=
  putText .err (RawText.ofString (String.join (errorPieces [message])))

/-- Runs the program on a host, shows what it shows, and returns what the process
reports. -/
def runOn (h : Host) (arguments : List RawText) (environment : Option RawText) : IO UInt32 := do
  let course := run h .unlimited arguments
  match filterOf arguments environment with
  | .error s =>
      putError s.message
      return 134
  | .ok filter =>
      for (outlet, text) in showing filter course.trace do putText outlet text
      match course.ending with
      | .ok status => return (Status.exitByte status).toUInt32
      | .error .queryBrokeOff =>
          putError Failure.abortText
          return 134

end ReadAccess.CommandLine

/-- The program: the arguments stand behind the name of the program. -/
def main (arguments : List String) : IO UInt32 := do
  let arguments := (ReadAccess.CommandLine.programName :: arguments).map
    ReadAccess.Text.RawText.ofString
  let environment := (← IO.getEnv "PERMCHECK_LOG").map ReadAccess.Text.RawText.ofString
  let bytes ←
    if ReadAccess.CommandLine.asksHost arguments then IO.FS.readBinFile "/dev/stdin"
    else pure .empty
  match ReadAccess.Host.ofInventory ⟨bytes.data.toList⟩ with
  | .ok h => ReadAccess.CommandLine.runOn h arguments environment
  | .error line =>
      ReadAccess.CommandLine.putError
        ("line " ++ ReadAccess.Text.decimal line ++ " of the inventory is no fact about a host")
      return (ReadAccess.CommandLine.Status.exitByte
        ReadAccess.CommandLine.Status.systemFailure).toUInt32
