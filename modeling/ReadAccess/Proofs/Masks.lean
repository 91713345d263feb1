/-
  What masks take away.

  By the classes of entries a mask bounds what entries about one user and about
  groups grant, and leaves alone what the owner and everyone else are granted
  (`Acl.PermitsByClass`).  A pass does not remember which entry granted reading,
  so one mask that withholds it takes away every grant, in the second pass as in
  the first.  The two ways to read a list part exactly where a mask withholds
  reading and the owner or everyone else is granted it (`Query.masks_bound_every_class`).
-/
import ReadAccess.Proofs.Indifference

set_option autoImplicit false

namespace ReadAccess

namespace Acl

/-! ## Reading by class -/

/-- The classes of entries that masks bound. -/
def Tag.IsBounded : Tag → Prop
  | .user _ | .owningGroup | .group _ => True
  | .owner | .mask | .other | .unknown _ => False

/-- No mask withholds reading. -/
def MasksLetRead (acl : Acl) : Prop := ∀ e ∈ acl.entries, e.LetsRead

instance (acl : Acl) : Decidable acl.MasksLetRead := inferInstanceAs (Decidable (∀ e ∈ _, _))

/-- The list permits reading in one scope by the classes of its entries: some
entry grants it, and if masks bound the entry, none of them withholds it. -/
def PermitsByClass (m : Metadata) (scope : Scope) (acl : Acl) : Prop :=
  ∃ e ∈ acl.entries, e.GrantsRead m scope ∧ (e.tag.IsBounded → acl.MasksLetRead)

/-- Everyone else is granted reading, or the owner is and is the one who asks. -/
def GrantsPastMasks (m : Metadata) (uid : Uid) (acl : Acl) : Prop :=
  ∃ e ∈ acl.entries,
    e.permission.canRead = true ∧ (e.tag = .owner ∧ uid = m.uid ∨ e.tag = .other)

section Classes

variable {m : Metadata} {scope : Scope} {uid : Uid} {acl : Acl}

/-- In the scope of the groups masks bound every entry. -/
theorem Tag.isBounded_of_concerns_group {groups : GroupList} {tag : Tag}
    (h : tag.Concerns m (.group groups)) : tag.IsBounded := by
  cases tag with
  | owningGroup | group _ => trivial
  | owner | user _ | mask | other | unknown _ => exact h.elim

theorem Tag.concerns_user_and_not_isBounded_iff {tag : Tag} :
    tag.Concerns m (.user uid) ∧ ¬ tag.IsBounded ↔ tag = .owner ∧ uid = m.uid ∨ tag = .other := by
  cases tag <;> simp [Tag.Concerns, Tag.IsBounded]

theorem grantsPastMasks_iff :
    acl.GrantsPastMasks m uid ↔
      ∃ e ∈ acl.entries, e.GrantsRead m (.user uid) ∧ ¬ e.tag.IsBounded := by
  simp only [GrantsPastMasks, Entry.GrantsRead, and_assoc,
    Tag.concerns_user_and_not_isBounded_iff]

theorem permitsByClass_of_permits (h : acl.Permits m scope) : acl.PermitsByClass m scope := by
  obtain ⟨hmasks, e, he, hgrants⟩ := h
  exact ⟨e, he, hgrants, fun _ => hmasks⟩

theorem permits_of_permitsByClass (hmasks : acl.MasksLetRead) (h : acl.PermitsByClass m scope) :
    acl.Permits m scope := by
  obtain ⟨e, he, hgrants, -⟩ := h
  exact ⟨hmasks, e, he, hgrants⟩

/-- A list permits what it permits by class exactly if no mask withholds reading,
or every grant in the scope is one that masks bound. -/
theorem permits_iff_permitsByClass :
    (acl.Permits m scope ↔ acl.PermitsByClass m scope) ↔
      acl.MasksLetRead ∨ ∀ e ∈ acl.entries, e.GrantsRead m scope → e.tag.IsBounded := by
  constructor
  · intro hiff
    by_cases hmasks : acl.MasksLetRead
    · exact .inl hmasks
    · refine .inr fun e he hgrants => ?_
      by_cases hbounded : e.tag.IsBounded
      · exact hbounded
      · -- The entry permits reading by class whatever the masks say.
        have hclass : acl.PermitsByClass m scope :=
          ⟨e, he, hgrants, fun hb => absurd hb hbounded⟩
        exact absurd (hiff.mpr hclass).1 hmasks
  · intro hcases
    refine ⟨permitsByClass_of_permits, fun hclass => ?_⟩
    obtain hmasks | hbounded := hcases
    · exact permits_of_permitsByClass hmasks hclass
    · obtain ⟨e, he, hgrants, hlets⟩ := hclass
      exact permits_of_permitsByClass (hlets (hbounded e he hgrants)) ⟨e, he, hgrants, hlets⟩

/-- What is granted past the masks is permitted exactly if no mask withholds
reading. -/
theorem permits_user_iff_of_grantsPastMasks (h : acl.GrantsPastMasks m uid) :
    acl.Permits m (.user uid) ↔ acl.MasksLetRead := by
  obtain ⟨e, he, hgrants, -⟩ := grantsPastMasks_iff.mp h
  exact ⟨fun hpermits => hpermits.1, fun hmasks => ⟨hmasks, e, he, hgrants⟩⟩

end Classes

/-! ## What a pass answers -/

section Passes

variable {m : Metadata} {scope : Scope} {path : Path} {acl : Acl}

theorem pass_ending_of_known (h : acl.firstUnknown? = none) :
    (acl.pass path m scope).ending = .ok (.ofBool (decide (acl.Permits m scope))) := by
  rw [pass_ending, h]

theorem pass_allowed_iff (h : acl.firstUnknown? = none) :
    (acl.pass path m scope).ending = .ok .allowed ↔ acl.Permits m scope := by
  rw [pass_ending_of_known h, Except.ok.injEq, Verdict.ofBool_eq_allowed_iff, decide_eq_true_iff]

end Passes

end Acl

namespace Query

/-! ## What a query answers -/

section Masked

variable {c : Collaborators} {user : String} {path : Path} {record : UserRecord} {m : Metadata}
  {acl : Acl}

/-- A query about a list with a mask that withholds reading asks for the groups
and denies reading, if it gets to know them. -/
theorem run_ending_of_withheld (hresolve : (c.resolveUser user).ending = .ok record)
    (hprobe : (c.probe path).ending = .ok m)
    (hload : (c.loadAcl path m).ending = .ok (.entries acl))
    (hknown : acl.firstUnknown? = none) (hmasks : ¬ acl.MasksLetRead) :
    (run c user path).ending =
      (c.resolveGroups user record.primaryGid).ending.bind fun _ => .ok .denied := by
  have hnever : ∀ scope, ¬ (AclLoad.entries acl).Permits m scope := fun scope hpermits =>
    hmasks hpermits.1
  have hnone : (AclLoad.entries acl).firstUnknown? = none := hknown
  rw [run_ending_of_probed hresolve hprobe, hload]
  show settle path m record.uid (.entries acl) _ = _
  rw [settle_of_not_permits hnone (hnever _)]
  refine congrArg _ (funext fun groups => congrArg Except.ok ?_)
  rw [Verdict.ofBool_eq_denied_iff, decide_eq_false_iff_not]
  exact hnever _

/-- **A mask that withholds reading takes it from everyone.**  A pass over a list
whose tags all have a meaning answers as the classes of its entries say exactly
if no mask withholds reading or all grants in the scope are of classes that
masks bound, as they are in the scope of the groups.  Where the owner, who asks,
or everyone else is granted reading, the query allows it at once if no mask
withholds it, and otherwise asks for the groups and then denies reading. -/
theorem masks_bound_every_class {acl : Acl}
    (hknown : ∀ e ∈ acl.entries, e.tag.isKnown = true) (m : Metadata) :
    (∀ (path : Path) (scope : Scope),
        ((acl.pass path m scope).ending = .ok .allowed ↔ acl.PermitsByClass m scope) ↔
          acl.MasksLetRead ∨ ∀ e ∈ acl.entries, e.GrantsRead m scope → e.tag.IsBounded) ∧
      (∀ (path : Path) (groups : GroupList),
        (acl.pass path m (.group groups)).ending = .ok .allowed ↔
          acl.PermitsByClass m (.group groups)) ∧
      (∀ (path : Path) (uid : Uid), acl.GrantsPastMasks m uid →
        (acl.pass path m (.user uid)).ending = .ok (.ofBool (decide acl.MasksLetRead))) ∧
      ∀ (c : Collaborators) (user : String) (path : Path) (record : UserRecord),
        (c.resolveUser user).ending = .ok record → (c.probe path).ending = .ok m →
        (c.loadAcl path m).ending = .ok (.entries acl) → acl.GrantsPastMasks m record.uid →
          (acl.MasksLetRead →
            (run c user path).ending = .ok .allowed ∧ ¬ (run c user path).ListsGroups) ∧
          (¬ acl.MasksLetRead →
            (run c user path).ending =
              (c.resolveGroups user record.primaryGid).ending.bind (fun _ => .ok .denied) ∧
            (run c user path).ListsGroups) := by
  have hnone : acl.firstUnknown? = none := Acl.firstUnknown?_eq_none_iff_isKnown.mpr hknown
  refine ⟨fun path scope => ?_, fun path groups => ?_, fun path uid hgrants => ?_,
    fun c user path record hresolve hprobe hload hgrants => ?_⟩
  · rw [Acl.pass_allowed_iff hnone]
    exact Acl.permits_iff_permitsByClass
  · rw [Acl.pass_allowed_iff hnone]
    refine Acl.permits_iff_permitsByClass.mpr (.inr fun e _ hgrants => ?_)
    exact Acl.Tag.isBounded_of_concerns_group hgrants.2
  · rw [Acl.pass_ending_of_known hnone]
    simp only [Acl.permits_user_iff_of_grantsPastMasks hgrants]
  · have hpermits := Acl.permits_user_iff_of_grantsPastMasks hgrants
    have hlists := listsGroups_iff_of_loaded hresolve hprobe hload
    refine ⟨fun hmasks => ⟨?_, fun hasks => ?_⟩, fun hmasks => ⟨?_, ?_⟩⟩
    · rw [run_ending_of_probed hresolve hprobe, hload]
      exact settle_of_permits hnone (hpermits.mpr hmasks)
    · exact (hlists.mp hasks).2 (hpermits.mpr hmasks)
    · exact run_ending_of_withheld hresolve hprobe hload hnone hmasks
    · exact hlists.mpr ⟨hnone, fun hp => hmasks (hpermits.mp hp)⟩

end Masked

/-- The owner, who may read and write by the list, asks for a file with a mask
that withholds everything. -/
def shieldedFromOwner : Answers where
  record := ⟨500, 50⟩
  metadata := ⟨500, 50, 0o100600⟩
  load := .entries
    ⟨[⟨.owner, ⟨6⟩⟩, ⟨.user 7, ⟨4⟩⟩, ⟨.owningGroup, ⟨4⟩⟩, ⟨.mask, ⟨0⟩⟩, ⟨.other, ⟨0⟩⟩]⟩
  groups := ⟨[50]⟩

/-- By its classes the list permits the owner to read, and the query denies
it. -/
theorem masks_bound_every_class_shieldedFromOwner :
    ∃ acl, shieldedFromOwner.load = .entries acl ∧
      (∀ e ∈ acl.entries, e.tag.isKnown = true) ∧
      acl.GrantsPastMasks shieldedFromOwner.metadata 500 ∧
      acl.PermitsByClass shieldedFromOwner.metadata (.user 500) ∧
      (acl.pass ⟨[47]⟩ shieldedFromOwner.metadata (.user 500)).ending = .ok .denied ∧
      (run shieldedFromOwner.collaborators "eve" ⟨[47]⟩).ending = .ok .denied ∧
      (run shieldedFromOwner.collaborators "eve" ⟨[47]⟩).ListsGroups := by
  let acl : Acl :=
    ⟨[⟨.owner, ⟨6⟩⟩, ⟨.user 7, ⟨4⟩⟩, ⟨.owningGroup, ⟨4⟩⟩, ⟨.mask, ⟨0⟩⟩, ⟨.other, ⟨0⟩⟩]⟩
  have hknown : ∀ e ∈ acl.entries, e.tag.isKnown = true := by decide
  have hmasks : ¬ acl.MasksLetRead := by decide
  have hgrants : acl.GrantsPastMasks shieldedFromOwner.metadata 500 :=
    ⟨⟨.owner, ⟨6⟩⟩, List.mem_cons_self, rfl, .inl ⟨rfl, rfl⟩⟩
  have hclass : acl.PermitsByClass shieldedFromOwner.metadata (.user 500) :=
    ⟨⟨.owner, ⟨6⟩⟩, List.mem_cons_self, ⟨rfl, rfl⟩, fun hbounded => hbounded.elim⟩
  obtain ⟨-, -, hpass, hrun⟩ := masks_bound_every_class hknown shieldedFromOwner.metadata
  obtain ⟨-, hwithheld⟩ :=
    hrun shieldedFromOwner.collaborators "eve" ⟨[47]⟩ ⟨500, 50⟩ rfl rfl rfl hgrants
  refine ⟨acl, rfl, hknown, hgrants, hclass, ?_, hwithheld hmasks⟩
  rw [hpass ⟨[47]⟩ 500 hgrants, decide_eq_false hmasks]
  rfl

end Query

end ReadAccess
