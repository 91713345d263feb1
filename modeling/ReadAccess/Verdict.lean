/-
  Verdicts, and the two scopes in which a file's permissions are read.
-/
import ReadAccess.Identity

set_option autoImplicit false

namespace ReadAccess

/-- The answer to "may this user read this file". -/
inductive Verdict where
  | allowed
  | denied
  deriving DecidableEq, Repr

namespace Verdict

def ofBool (b : Bool) : Verdict := if b then .allowed else .denied

def text : Verdict → String
  | .allowed => "allowed"
  | .denied => "denied"

@[simp] theorem ofBool_eq_allowed_iff {b : Bool} : ofBool b = .allowed ↔ b = true := by
  cases b <;> simp [ofBool]

@[simp] theorem ofBool_eq_denied_iff {b : Bool} : ofBool b = .denied ↔ b = false := by
  cases b <;> simp [ofBool]

end Verdict

/-- The answer of a pass over what was loaded as the access control list of a
file. -/
inductive Outcome where
  | allowed
  | denied
  | unsupported
  deriving DecidableEq, Repr

def Outcome.ofVerdict : Verdict → Outcome
  | .allowed => .allowed
  | .denied => .denied

/-- Which of the two passes is meant. -/
inductive ScopeKind where
  | user
  | group
  deriving DecidableEq, Repr

def ScopeKind.text : ScopeKind → String
  | .user => "user"
  | .group => "group"

/-- On whose behalf a pass is made: the user alone, or the user's groups. -/
inductive Scope where
  | user (uid : Uid)
  | group (groups : GroupList)
  deriving DecidableEq, Repr

def Scope.kind : Scope → ScopeKind
  | .user _ => .user
  | .group _ => .group

end ReadAccess
