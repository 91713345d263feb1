/-
  One pass over an access control list.

  A pass is made on behalf of the user alone or of the user's groups.  It looks
  at every entry, so its answer does not depend on their order: reading is
  allowed if some entry that applies grants it and no mask takes it away.
-/
import ReadAccess.Event
import ReadAccess.Traced

set_option autoImplicit false

namespace ReadAccess.Acl

/-- Whether an entry with this tag takes part in a pass.  Entries about users
and everyone else count for the user alone, entries about groups count for the
groups, and a mask counts for both.  A tag without meaning gives its number as
the error. -/
def Tag.appliesTo (m : Metadata) : Scope → Tag → Except UInt16 Bool
  | .user uid, .owner => .ok (uid == m.uid)
  | .user uid, .user q => .ok (q == uid)
  | .user _, .owningGroup => .ok false
  | .user _, .group _ => .ok false
  | .user _, .other => .ok true
  | .group _, .owner => .ok false
  | .group _, .user _ => .ok false
  | .group groups, .owningGroup => .ok (groups.contains m.gid)
  | .group groups, .group q => .ok (groups.contains q)
  | .group _, .other => .ok false
  | _, .mask => .ok true
  | _, .unknown raw => .error raw

/-- What a pass has found so far. -/
structure Tally where
  hasRead : Bool
  maskAllowsRead : Bool
  deriving DecidableEq, Repr

namespace Tally

def start : Tally := ⟨false, true⟩

def count (t : Tally) (e : Entry) (applies : Bool) : Tally :=
  if applies then
    match e.tag with
    | .mask => if e.permission.canRead then t else { t with maskAllowsRead := false }
    | _ => if e.permission.canRead then { t with hasRead := true } else t
  else t

def verdict (t : Tally) : Verdict := .ofBool (t.hasRead && t.maskAllowsRead)

end Tally

/-- The walk of a pass over the entries, with one event for each.  It stops in
front of the first tag without meaning. -/
def walk (m : Metadata) (scope : Scope) : Tally → List Entry → Traced Event UInt16 Tally
  | t, [] => .value t
  | t, e :: rest =>
      match e.tag.appliesTo m scope with
      | .error raw => .fail raw
      | .ok applies =>
          (walk m scope (t.count e applies) rest).after
            [.aclEntry scope.kind e.tag e.permission applies]

/-- One pass over the list of the file at `path`.  A complete walk is followed
by an event with its findings; a tag without meaning makes the list
malformed. -/
def pass (acl : Acl) (path : Path) (m : Metadata) (scope : Scope) :
    Traced Event AccessError Verdict := do
  let t ← (walk m scope .start acl.entries).mapError fun raw =>
    .malformedAcl path (.unknownTag raw)
  .tell (.aclPass scope.kind t.hasRead t.maskAllowsRead)
  return t.verdict

end ReadAccess.Acl

namespace ReadAccess.AclLoad

/-- One pass over what was loaded.  Where the filesystem has no access control
lists there is nothing to look at, and nothing is reported. -/
def pass (load : AclLoad) (path : Path) (m : Metadata) (scope : Scope) :
    Traced Event AccessError Outcome :=
  match load with
  | .entries acl => do return .ofVerdict (← acl.pass path m scope)
  | .unsupported => return .unsupported

end ReadAccess.AclLoad
