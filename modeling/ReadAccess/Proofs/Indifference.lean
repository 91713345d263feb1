/-
  What the ending of a query does not depend on.

  Two queries whose answers are `Alike` may differ in the order and the number
  of entries and memberships, in every permission but reading, and, where a list
  was loaded, in the mode.  They end alike, and either both of them ask for
  groups or neither does (`run_endsAlike`).
-/
import ReadAccess.Proofs.Decision

set_option autoImplicit false

namespace ReadAccess

/-! ## What a list says about reading -/

namespace Acl

/-- What each entry says about reading: its tag, and whether it can read. -/
def readings (acl : Acl) : List (Tag × Bool) :=
  acl.entries.map fun e => (e.tag, e.permission.canRead)

theorem firstUnknown?_eq_none_iff {acl : Acl} :
    acl.firstUnknown? = none ↔ ∀ r ∈ acl.readings, r.1.raw? = none := by
  simp [firstUnknown?, readings]

/-- What a list permits shows in the readings. -/
theorem permits_iff_readings {m : Metadata} {scope : Scope} {acl : Acl} :
    acl.Permits m scope ↔
      (Tag.mask, false) ∉ acl.readings ∧
        ∃ r ∈ acl.readings, r.2 = true ∧ r.1.Concerns m scope := by
  simp only [Permits, Entry.LetsRead, Entry.GrantsRead, readings, List.mem_map, Prod.mk.injEq]
  constructor
  · rintro ⟨hmask, e, he, hread, hconcerns⟩
    refine ⟨?_, (e.tag, e.permission.canRead), ⟨e, he, rfl⟩, hread, hconcerns⟩
    rintro ⟨d, hd, htag, hbar⟩
    rw [hmask d hd htag] at hbar
    cases hbar
  · rintro ⟨hmask, _, ⟨e, he, rfl⟩, hread, hconcerns⟩
    refine ⟨fun d hd htag => ?_, e, he, hread, hconcerns⟩
    cases hbar : d.permission.canRead with
    | true => rfl
    | false => exact absurd ⟨d, hd, htag, hbar⟩ hmask

end Acl

/-! ## Requesters that nothing tells apart -/

/-- The scopes are of one kind and have the same user or the same groups. -/
inductive Scope.Alike : Scope → Scope → Prop where
  | user (uid : Uid) : Scope.Alike (.user uid) (.user uid)
  | group {g k : GroupList} (h : ∀ gid, gid ∈ g ↔ gid ∈ k) : Scope.Alike (.group g) (.group k)

/-- The files have the same owner and the same owning group. -/
structure Metadata.SameOwners (m n : Metadata) : Prop where
  uid : m.uid = n.uid
  gid : m.gid = n.gid

/-- Whom a tag is about depends on the owners and on the requester alone. -/
theorem Acl.Tag.concerns_congr {m n : Metadata} {s t : Scope} (hm : m.SameOwners n)
    (h : s.Alike t) (tag : Acl.Tag) : tag.Concerns m s ↔ tag.Concerns n t := by
  cases h with
  | user uid => cases tag <;> simp [Acl.Tag.Concerns, hm.uid]
  | group h => cases tag <;> simp [Acl.Tag.Concerns, hm.gid, h]

theorem Acl.permits_congr {p q : Acl} {m n : Metadata} {s t : Scope} (hm : m.SameOwners n)
    (h : s.Alike t) (hpq : ∀ r, r ∈ p.readings ↔ r ∈ q.readings) :
    p.Permits m s ↔ q.Permits n t := by
  simp only [Acl.permits_iff_readings, hpq, Acl.Tag.concerns_congr hm h]

/-- A bit for reading is on or off with the mode cut to such bits. -/
theorem ModeBits.has_congr {mode other bit : UInt32} (hbit : 0o444 &&& bit = bit)
    (h : mode &&& 0o444 = other &&& 0o444) : ModeBits.has mode bit = ModeBits.has other bit := by
  have hcut : ∀ x : UInt32, x &&& bit = x &&& 0o444 &&& bit := fun x => by
    rw [UInt32.and_assoc, hbit]
  rw [ModeBits.has, ModeBits.has, hcut mode, hcut other, h]

/-- A mode permits what any mode with the same bits for reading does. -/
theorem ModeBits.permits_congr {m n : Metadata} {s t : Scope} (hm : m.SameOwners n)
    (h : s.Alike t) (hmode : m.mode &&& 0o444 = n.mode &&& 0o444) :
    ModeBits.Permits m s ↔ ModeBits.Permits n t := by
  -- All three bits are among those that the modes share.
  have hother := ModeBits.has_congr (show 0o444 &&& ModeBits.otherRead = _ from rfl) hmode
  have howner := ModeBits.has_congr (show 0o444 &&& ModeBits.ownerRead = _ from rfl) hmode
  have hgroup := ModeBits.has_congr (show 0o444 &&& ModeBits.groupRead = _ from rfl) hmode
  cases h with
  | user uid => simp only [ModeBits.Permits, hother, howner, hm.uid]
  | group h => simp only [ModeBits.Permits, hgroup, hm.gid, h]

/-! ## Answers that nothing tells apart -/

/-- What was loaded says the same about reading: the same readings in any order
and number, or modes with the same bits for reading. -/
inductive AclLoad.Alike (m n : Metadata) : AclLoad → AclLoad → Prop where
  | entries {p q : Acl} (h : ∀ r, r ∈ p.readings ↔ r ∈ q.readings) :
      AclLoad.Alike m n (.entries p) (.entries q)
  | unsupported (h : m.mode &&& 0o444 = n.mode &&& 0o444) :
      AclLoad.Alike m n .unsupported .unsupported

theorem AclLoad.permits_congr {m n : Metadata} {l k : AclLoad} {s t : Scope}
    (hm : m.SameOwners n) (hl : AclLoad.Alike m n l k) (h : s.Alike t) :
    l.Permits m s ↔ k.Permits n t := by
  cases hl with
  | entries hpq => exact Acl.permits_congr hm h hpq
  | unsupported hmode => exact ModeBits.permits_congr hm h hmode

theorem AclLoad.firstUnknown?_congr {m n : Metadata} {l k : AclLoad}
    (hl : AclLoad.Alike m n l k) : l.firstUnknown? = none ↔ k.firstUnknown? = none := by
  cases hl with
  | unsupported _ => exact Iff.rfl
  | entries hpq =>
      show Acl.firstUnknown? _ = none ↔ Acl.firstUnknown? _ = none
      simp only [Acl.firstUnknown?_eq_none_iff, hpq]

namespace Query

/-- What the collaborators answer in a query in which none of them fails. -/
structure Answers where
  /-- The user. -/
  record : UserRecord
  /-- The file. -/
  metadata : Metadata
  /-- What was loaded. -/
  load : AclLoad
  /-- The groups of the user. -/
  groups : GroupList

namespace Answers

/-- The answers are given in the query of `user` about `path`. -/
structure Given (a : Answers) (c : Collaborators) (user : String) (path : Path) : Prop where
  /-- The user is found. -/
  resolves : (c.resolveUser user).ending = .ok a.record
  /-- The file is found. -/
  probes : (c.probe path).ending = .ok a.metadata
  /-- The list is loaded, or there is none. -/
  loads : (c.loadAcl path a.metadata).ending = .ok a.load
  /-- The groups can be listed. -/
  lists : (c.resolveGroups user a.record.primaryGid).ending = .ok a.groups

/-- The answers agree on the user, on the owners of the file, on the set of
groups and on what was loaded says about reading. -/
structure Alike (a b : Answers) : Prop where
  uid : a.record.uid = b.record.uid
  owners : a.metadata.SameOwners b.metadata
  groups : ∀ gid, gid ∈ a.groups ↔ gid ∈ b.groups
  load : AclLoad.Alike a.metadata b.metadata a.load b.load

/-- Collaborators that give these answers to every question. -/
def collaborators (a : Answers) : Collaborators where
  resolveUser _ := .value a.record
  probe _ := .value a.metadata
  loadAcl _ _ := .value a.load
  resolveGroups _ _ := .value a.groups

theorem given_collaborators (a : Answers) (user : String) (path : Path) :
    a.Given a.collaborators user path := ⟨rfl, rfl, rfl, rfl⟩

variable {a b : Answers} {c : Collaborators} {user : String} {path : Path}

theorem Given.ending (h : a.Given c user path) :
    (run c user path).ending = settle path a.metadata a.record.uid a.load (.ok a.groups) := by
  rw [run_ending_of_probed h.resolves h.probes, h.loads, h.lists]
  rfl

/-- A query with answers asks for groups if what was loaded has a meaning and
does not let the user alone read. -/
theorem Given.listsGroups_iff (h : a.Given c user path) :
    (run c user path).ListsGroups ↔
      a.load.firstUnknown? = none ∧ ¬ a.load.Permits a.metadata (.user a.record.uid) :=
  listsGroups_iff_of_loaded h.resolves h.probes h.loads

end Answers

/-- Two endings with the same verdict, or with errors of the same kind. -/
inductive EndsAlike : Except Failure Verdict → Except Failure Verdict → Prop where
  | verdict (v : Verdict) : EndsAlike (.ok v) (.ok v)
  | error {e f : AccessError} (h : e.kind = f.kind) :
      EndsAlike (.error (.error e)) (.error (.error f))

theorem settle_endsAlike {a b : Answers} (h : a.Alike b) (path place : Path) :
    EndsAlike (settle path a.metadata a.record.uid a.load (.ok a.groups))
      (settle place b.metadata b.record.uid b.load (.ok b.groups)) := by
  have hnone := AclLoad.firstUnknown?_congr h.load
  cases ha : a.load.firstUnknown? with
  | some raw =>
      cases hb : b.load.firstUnknown? with
      | some other =>
          rw [settle_of_unknown ha, settle_of_unknown hb]
          exact .error rfl
      | none => rw [hnone.mpr hb] at ha; cases ha
  | none =>
      have hmember : a.load.PermitsMember a.metadata a.record.uid a.groups ↔
          b.load.PermitsMember b.metadata b.record.uid b.groups := by
        rw [AclLoad.permitsMember_iff, AclLoad.permitsMember_iff, h.uid,
          AclLoad.permits_congr h.owners h.load (.user b.record.uid),
          AclLoad.permits_congr h.owners h.load (.group h.groups)]
      simp only [settle, ha, hnone.mp ha, hmember]
      exact .verdict _

/-- **A verdict depends on nothing but the bits for reading and on sets.**  Two
queries with answers alike end alike, and both or neither list groups. -/
theorem run_endsAlike {a b : Answers} {c d : Collaborators} {user other : String}
    {path place : Path} (ha : a.Given c user path) (hb : b.Given d other place)
    (h : a.Alike b) :
    EndsAlike (run c user path).ending (run d other place).ending ∧
      ((run c user path).ListsGroups ↔ (run d other place).ListsGroups) := by
  constructor
  · rw [ha.ending, hb.ending]
    exact settle_endsAlike h path place
  · rw [ha.listsGroups_iff, hb.listsGroups_iff, AclLoad.firstUnknown?_congr h.load, h.uid,
      AclLoad.permits_congr h.owners h.load (.user b.record.uid)]

/-- A member of two groups, and a file that one of them may read. -/
def memberReads : Answers where
  record := ⟨501, 42⟩
  metadata := ⟨500, 50, 0o100600⟩
  load := .entries ⟨[⟨.owner, ⟨6⟩⟩, ⟨.group 42, ⟨4⟩⟩, ⟨.mask, ⟨7⟩⟩, ⟨.other, ⟨0⟩⟩]⟩
  groups := ⟨[42, 7]⟩

/-- The same with the entries in another order and one of them twice, with other
permissions but reading, another mode and one membership twice. -/
def memberReadsReordered : Answers where
  record := ⟨501, 100⟩
  metadata := ⟨500, 50, 0o100777⟩
  load := .entries
    ⟨[⟨.mask, ⟨4⟩⟩, ⟨.other, ⟨3⟩⟩, ⟨.group 42, ⟨5⟩⟩, ⟨.owner, ⟨4⟩⟩, ⟨.group 42, ⟨6⟩⟩]⟩
  groups := ⟨[7, 42, 42]⟩

/-- The answers about the member are alike, and the member may read by either. -/
theorem run_endsAlike_reordered :
    memberReads.Alike memberReadsReordered ∧
      (run memberReads.collaborators "eve" ⟨[47]⟩).ending = .ok .allowed ∧
      EndsAlike (run memberReads.collaborators "eve" ⟨[47]⟩).ending
        (run memberReadsReordered.collaborators "eve" ⟨[47]⟩).ending ∧
      ((run memberReads.collaborators "eve" ⟨[47]⟩).ListsGroups ↔
        (run memberReadsReordered.collaborators "eve" ⟨[47]⟩).ListsGroups) := by
  have halike : memberReads.Alike memberReadsReordered := by
    refine ⟨rfl, ⟨rfl, rfl⟩, fun gid => ?_, .entries fun r => ⟨?_, ?_⟩⟩
    · show gid ∈ [42, 7] ↔ gid ∈ [7, 42, 42]
      simp [or_comm]
    · revert r
      decide
    · revert r
      decide
  exact ⟨halike, rfl,
    run_endsAlike (memberReads.given_collaborators _ _)
      (memberReadsReordered.given_collaborators _ _) halike⟩

end Query

end ReadAccess
