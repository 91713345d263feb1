/-
  A lister whose answers are planned in advance.
-/
import ReadAccess.Groups.Listing

set_option autoImplicit false

namespace ReadAccess.Groups

/-- A planned attempt: what it writes, and how it replies. -/
structure PlannedAttempt where
  written : List Gid
  reply : Except IoError Reply

/-- The lister that answers one planned attempt after the other, and fails when
none is left. -/
def planned : Lister (List PlannedAttempt) := fun plan _ _ _ =>
  match plan with
  | [] => ⟨[], .error .answersExhausted, []⟩
  | attempt :: rest => ⟨attempt.written, attempt.reply, rest⟩

end ReadAccess.Groups
