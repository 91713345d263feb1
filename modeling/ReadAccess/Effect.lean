/-
  What a collaborator of a query does besides answering: calls to the host, and
  notes for the log.
-/
import ReadAccess.AccessError
import ReadAccess.Subsystem

set_option autoImplicit false

namespace ReadAccess

/-- A call to the host that an observer of the host can see. -/
inductive HostCall where
  | stat (path : Path)
  | readAcl (path : Path)
  /-- The groups of a user are listed into a buffer of this many slots. -/
  | listGroups (user : String) (gid : Gid) (capacity : Size)
  deriving DecidableEq, Repr

/-- A note of a collaborator for the log. -/
inductive Note where
  | userFound (user : String) (record : UserRecord)
  | userUnknown (user : String)
  | fileOwned (path : Path) (metadata : Metadata)
  | aclMinimal (path : Path)
  | aclCarries (path : Path) (count : Nat)
  | aclUnsupported (path : Path)
  | groupsListed (user : String) (count : Nat)
  | bufferStuck (user : String) (size : Size)
  | bufferGrows (user : String) (size reported capacity : Size)
  deriving DecidableEq, Repr

namespace Note

def subsystem : Note → Subsystem
  | .userFound .. => .identity
  | .userUnknown _ => .identity
  | .fileOwned .. => .probe
  | .aclMinimal _ => .acl
  | .aclCarries .. => .acl
  | .aclUnsupported _ => .acl
  | .groupsListed .. => .identity
  | .bufferStuck .. => .identity
  | .bufferGrows .. => .identity

def text : Note → String
  | .userFound user record =>
      "user '" ++ user ++ "' resolved to uid " ++ Text.decimal record.uid.toNat ++
        " (primary gid " ++ Text.decimal record.primaryGid.toNat ++ ")"
  | .userUnknown user => "no user '" ++ user ++ "' found"
  | .fileOwned path m =>
      path.shown ++ " is owned by " ++ Text.decimal m.uid.toNat ++ ":" ++
        Text.decimal m.gid.toNat ++ " mode " ++ Text.octal m.permissions.toNat
  | .aclMinimal path => path.shown ++ " has no extended ACL, using minimal ACL"
  | .aclCarries path count => path.shown ++ " carries " ++ Text.decimal count ++ " ACL entries"
  | .aclUnsupported path => path.shown ++ ": filesystem has no ACL support"
  | .groupsListed user count => "user '" ++ user ++ "' is in " ++ Text.decimal count ++ " groups"
  | .bufferStuck user size =>
      "group buffer for '" ++ user ++ "' cannot grow past " ++ size.text ++ " slots"
  | .bufferGrows user size reported capacity =>
      "group buffer for '" ++ user ++ "' too small (" ++ size.text ++ " slots, " ++
        reported.text ++ " reported), growing to " ++ capacity.text

def line (n : Note) : LogLine := ⟨n.subsystem, n.text⟩

end Note

/-- What a collaborator does besides answering. -/
inductive Effect where
  | call (call : HostCall)
  | note (note : Note)
  deriving DecidableEq, Repr

namespace Effect

def call? : Effect → Option HostCall
  | .call c => some c
  | .note _ => none

def line? : Effect → Option LogLine
  | .call _ => none
  | .note n => some n.line

end Effect

end ReadAccess
