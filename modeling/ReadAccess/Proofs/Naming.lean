/-
  How the stored entries of a file are handed over: each with its principal by
  name, and none of them if some number cannot be looked up.
-/
import ReadAccess.Host.AccessLists
import ReadAccess.Proofs.Results

set_option autoImplicit false

namespace ReadAccess

namespace Host

variable {h : Host} {path : Path}

/-! ## Entries with a name -/

/-- An entry with this tag is handed over as one of this kind and name. -/
inductive HandedOver (h : Host) : Acl.Tag → Acl.NamedKind → String → Prop where
  | owner : HandedOver h .owner .user ""
  | user {uid : Uid} {name : String} (hname : nameOf Account.toPrincipal h.users uid = .ok name) :
      HandedOver h (.user uid) .user name
  | owningGroup : HandedOver h .owningGroup .group ""
  | group {gid : Gid} {name : String} (hname : nameOf id h.groups gid = .ok name) :
      HandedOver h (.group gid) .group name
  | mask : HandedOver h .mask .mask ""
  | other : HandedOver h .other .other ""
  | unknown (raw : UInt16) : HandedOver h (.unknown raw) .unknown ""

/-- What is handed over for an entry has its permission. -/
theorem handedOver_of_nameEntry {e : Acl.Entry} {n : Acl.NamedEntry}
    (hn : h.nameEntry e = .ok n) :
    h.HandedOver e.tag n.kind n.name ∧ n.permission = e.permission := by
  obtain ⟨tag, permission⟩ := e
  cases tag with
  | user uid =>
      simp only [nameEntry] at hn
      cases hname : nameOf Account.toPrincipal h.users uid with
      | error code => rw [hname] at hn; cases hn
      | ok name =>
          rw [hname] at hn
          obtain rfl := Except.ok.inj hn
          exact ⟨.user hname, rfl⟩
  | group gid =>
      simp only [nameEntry] at hn
      cases hname : nameOf id h.groups gid with
      | error code => rw [hname] at hn; cases hn
      | ok name =>
          rw [hname] at hn
          obtain rfl := Except.ok.inj hn
          exact ⟨.group hname, rfl⟩
  | owner | owningGroup | mask | other | unknown =>
      obtain rfl := Except.ok.inj hn
      exact ⟨by constructor, rfl⟩

/-! ## Numbers without a name -/

/-- The failure of looking up the number in a tag.  Only one user and one group
are given by number. -/
def namingFault? (h : Host) : Acl.Tag → Option Errno
  | .user uid => errorOf? (h.userNumbered uid)
  | .group gid => errorOf? (h.groupNumbered gid)
  | _ => none

theorem errorOf?_nameOf {α : Type} (row : α → Principal) (table : List α) (id : UInt32) :
    errorOf? (nameOf row table id) = errorOf? (lookUpId row table id) := by
  rw [nameOf]
  cases lookUpId row table id with
  | error code => rfl
  | ok found => cases found <;> rfl

theorem errorOf?_nameEntry (e : Acl.Entry) : errorOf? (h.nameEntry e) = h.namingFault? e.tag := by
  rw [nameEntry]
  cases e.tag with
  | user uid => simp only [errorOf?_map, errorOf?_nameOf, namingFault?, userNumbered]
  | group gid => simp only [errorOf?_map, errorOf?_nameOf, namingFault?, groupNumbered]
  | _ => rfl

/-- The first failure of looking up the number of a stored entry. -/
def firstNamingFault? (h : Host) (stored : List Acl.Entry) : Option Errno :=
  stored.findSome? fun e => h.namingFault? e.tag

theorem errorOf?_mapM_nameEntry (stored : List Acl.Entry) :
    errorOf? (stored.mapM h.nameEntry) = h.firstNamingFault? stored := by
  simp only [errorOf?_mapM, errorOf?_nameEntry, firstNamingFault?]

/-! ## Reading a list -/

/-- A list that cannot be read loses the number of the failure. -/
theorem readAcl_of_unreadable {code : Errno} (hpath : path.hasNul = false)
    (hstored : h.storedEntries path = .error code) :
    h.readAcl path = .error (.onFile path code) := by
  simp only [readAcl, hpath, hstored, Bool.false_eq_true, if_false]

/-- A list that is read, but in which a number cannot be looked up, keeps the
number of the failure. -/
theorem readAcl_of_unnamed {stored : List Acl.Entry} {code : Errno}
    (hpath : path.hasNul = false) (hstored : h.storedEntries path = .ok stored)
    (hfault : h.firstNamingFault? stored = some code) :
    h.readAcl path = .error (.call code) := by
  have hnamed : errorOf? (stored.mapM h.nameEntry) = some code :=
    (errorOf?_mapM_nameEntry stored).trans hfault
  cases hresult : stored.mapM h.nameEntry with
  | ok named => rw [hresult] at hnamed; cases hnamed
  | error other =>
      rw [hresult] at hnamed
      obtain rfl := Option.some.inj hnamed
      simp only [readAcl, hpath, hstored, hresult, Bool.false_eq_true, if_false]

theorem readAcl_of_forall₂ {stored : List Acl.Entry} {named : List Acl.NamedEntry}
    (hpath : path.hasNul = false) (hstored : h.storedEntries path = .ok stored)
    (hnamed : List.Forall₂ (fun e n => h.nameEntry e = .ok n) stored named) :
    h.readAcl path = .ok named := by
  have hnames : stored.mapM h.nameEntry = .ok named := mapM_eq_ok_iff.mpr hnamed
  simp only [readAcl, hpath, hstored, hnames, Bool.false_eq_true, if_false]

/-- Any other list that is read is handed over entry by entry. -/
theorem readAcl_of_named {stored : List Acl.Entry} (hpath : path.hasNul = false)
    (hstored : h.storedEntries path = .ok stored) (hfault : h.firstNamingFault? stored = none) :
    ∃ named, h.readAcl path = .ok named ∧
      List.Forall₂ (fun e n => h.nameEntry e = .ok n) stored named := by
  obtain ⟨named, hresult⟩ :=
    errorOf?_eq_none_iff.mp ((errorOf?_mapM_nameEntry stored).trans hfault)
  have hnamed := mapM_eq_ok_iff.mp hresult
  exact ⟨named, readAcl_of_forall₂ hpath hstored hnamed, hnamed⟩

end Host

end ReadAccess
