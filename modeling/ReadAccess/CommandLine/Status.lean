/-
  Exit statuses.
-/
import ReadAccess.AccessError
import ReadAccess.Verdict

set_option autoImplicit false

namespace ReadAccess.CommandLine

/-- The status of a run; of several that apply the greatest counts. -/
abbrev Status := Nat

namespace Status

def allowed : Status := 0

def denied : Status := 1

def usage : Status := 2

def userNotFound : Status := 3

def fileNotFound : Status := 4

def malformedAcl : Status := 5

def groupListOverflow : Status := 6

def systemFailure : Status := 7

def ofVerdict : Verdict → Status
  | .allowed => allowed
  | .denied => denied

def ofKind : AccessError.Kind → Status
  | .userNotFound => userNotFound
  | .fileNotFound => fileNotFound
  | .malformedAcl => malformedAcl
  | .groupListOverflow => groupListOverflow
  | .systemFailure => systemFailure

/-- The byte that a process can report for a number: the nearest one. -/
def exitByte (n : Int) : UInt8 := if 255 ≤ n then 255 else UInt8.ofNat n.toNat

/-- Failures count more than verdicts and rejected command lines. -/
theorem usage_lt_ofKind (k : AccessError.Kind) : usage < ofKind k := by
  cases k <;> decide

theorem ofVerdict_lt_usage (v : Verdict) : ofVerdict v < usage := by
  cases v <;> decide

end Status

end ReadAccess.CommandLine
