/-
  Events: what a query reports of its course.
-/
import ReadAccess.AccessError
import ReadAccess.Acl.Basic
import ReadAccess.Subsystem
import ReadAccess.Verdict

set_option autoImplicit false

namespace ReadAccess

/-- One step in the course of a query. -/
inductive Event where
  | userResolved (uid : Uid)
  | metadataProbed (metadata : Metadata)
  | aclUnsupported
  | aclEntry (scope : ScopeKind) (tag : Acl.Tag) (permission : Permission) (applies : Bool)
  | aclPass (scope : ScopeKind) (hasRead maskAllowsRead : Bool)
  | modePass (scope : ScopeKind) (verdict : Verdict)
  /-- The user has this many memberships. -/
  | groupsResolved (count : Nat)
  | finished (verdict : Verdict)
  | failed (kind : AccessError.Kind)
  deriving DecidableEq, Repr

namespace Event

def boolText (b : Bool) : String := if b then "true" else "false"

def subsystem : Event → Subsystem
  | .userResolved _ => .identity
  | .metadataProbed _ => .probe
  | .aclUnsupported => .acl
  | .aclEntry .. => .acl
  | .aclPass .. => .acl
  | .modePass .. => .decision
  | .groupsResolved _ => .identity
  | .finished _ => .decision
  | .failed _ => .decision

def text : Event → String
  | .userResolved uid => "uid " ++ Text.decimal uid.toNat
  | .metadataProbed m =>
      "owner " ++ Text.decimal m.uid.toNat ++ ":" ++ Text.decimal m.gid.toNat ++
        " mode " ++ Text.octal m.permissions.toNat
  | .aclUnsupported => "no ACL support, using mode bits"
  | .aclEntry scope tag permission applies =>
      scope.text ++ " pass: " ++ tag.text ++ " " ++ permission.text ++
        (if applies then " applies" else " skipped")
  | .aclPass scope hasRead maskAllowsRead =>
      scope.text ++ " pass: read granted=" ++ boolText hasRead ++
        " mask allows=" ++ boolText maskAllowsRead
  | .modePass scope verdict => "mode bits, " ++ scope.text ++ " pass: " ++ verdict.text
  | .groupsResolved count => "member of " ++ Text.decimal count ++ " groups"
  | .finished verdict => verdict.text
  | .failed kind => "failed: " ++ kind.name

/-- The log line of an event in the query of `user` about `path`. -/
def line (user : String) (path : Path) (e : Event) : LogLine :=
  ⟨e.subsystem, "[" ++ user ++ " " ++ path.shown ++ "] " ++ e.text⟩

end Event

end ReadAccess
