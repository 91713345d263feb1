/-
  What an access control list, or the mode of a file, lets a requester read.

  `Permits` speaks of all entries at once and not of a walk over them: every
  mask lets reading through, and some entry about the requester grants it.  The
  lemmas on endings (`Acl.pass_ending`, `ModeBits.pass_ending`,
  `AclLoad.pass_entries_ending`) say that a pass finds out exactly that, and
  that a tag without meaning is the only thing that can stop one.
-/
import ReadAccess.Acl.Pass
import ReadAccess.ModeBits

set_option autoImplicit false

namespace ReadAccess

instance (groups : GroupList) (gid : Gid) : Decidable (gid ∈ groups) :=
  inferInstanceAs (Decidable (gid ∈ groups.gids))

namespace Acl

/-! ## Whom an entry is about -/

/-- Whether an entry with this tag is about whoever asks in the scope.  A mask
is about nobody, and neither is a tag without meaning. -/
def Tag.Concerns (m : Metadata) : Scope → Tag → Prop
  | .user uid, .owner => uid = m.uid
  | .user uid, .user q => q = uid
  | .user _, .other => True
  | .group groups, .owningGroup => m.gid ∈ groups
  | .group groups, .group q => q ∈ groups
  | _, _ => False

instance (m : Metadata) (scope : Scope) (tag : Tag) : Decidable (tag.Concerns m scope) :=
  match scope, tag with
  | .user uid, .owner => inferInstanceAs (Decidable (uid = m.uid))
  | .user uid, .user q => inferInstanceAs (Decidable (q = uid))
  | .user _, .other => inferInstanceAs (Decidable True)
  | .group groups, .owningGroup => inferInstanceAs (Decidable (m.gid ∈ groups))
  | .group groups, .group q => inferInstanceAs (Decidable (q ∈ groups))
  | .user _, .owningGroup | .user _, .group _ | .user _, .mask | .user _, .unknown _
  | .group _, .owner | .group _, .user _ | .group _, .mask | .group _, .other
  | .group _, .unknown _ => inferInstanceAs (Decidable False)

theorem Tag.ne_mask_of_concerns {m : Metadata} {scope : Scope} {tag : Tag}
    (h : tag.Concerns m scope) : tag ≠ .mask := by
  rintro rfl
  cases scope <;> exact h

/-- Whether an entry with this tag is about the user with this number who is in
these groups. -/
def Tag.IsAbout (m : Metadata) (uid : Uid) (groups : GroupList) : Tag → Prop
  | .owner => uid = m.uid
  | .user q => q = uid
  | .owningGroup => m.gid ∈ groups
  | .group q => q ∈ groups
  | .mask => False
  | .other => True
  | .unknown _ => False

/-- The two scopes share out the entries about a user between them. -/
theorem Tag.isAbout_iff {m : Metadata} {uid : Uid} {groups : GroupList} {tag : Tag} :
    tag.IsAbout m uid groups ↔
      tag.Concerns m (.user uid) ∨ tag.Concerns m (.group groups) := by
  cases tag <;> simp [Tag.IsAbout, Tag.Concerns]

/-- The number of a tag without meaning. -/
def Tag.raw? : Tag → Option UInt16
  | .unknown raw => some raw
  | _ => none

theorem Tag.isKnown_iff {tag : Tag} : tag.isKnown = true ↔ tag.raw? = none := by
  cases tag <;> simp [Tag.isKnown, Tag.raw?]

/-- A tag without meaning is an error in either scope. -/
theorem Tag.appliesTo_of_raw {tag : Tag} {raw : UInt16} (h : tag.raw? = some raw)
    (m : Metadata) (scope : Scope) : tag.appliesTo m scope = .error raw := by
  cases tag with
  | unknown _ =>
      obtain rfl := Option.some.inj h
      cases scope <;> rfl
  | _ => cases h

/-- Any other entry takes part in a pass if it is a mask or is about whoever
asks. -/
theorem Tag.appliesTo_of_known {tag : Tag} (h : tag.raw? = none) (m : Metadata)
    (scope : Scope) :
    tag.appliesTo m scope = .ok (decide (tag = .mask ∨ tag.Concerns m scope)) := by
  cases tag with
  | unknown _ => cases h
  | _ =>
      cases scope
      all_goals
        refine congrArg Except.ok ?_
        rw [Bool.eq_iff_iff, decide_eq_true_iff]
        simp [Tag.Concerns, GroupList.contains_iff]

/-! ## What the entries permit -/

/-- An entry grants reading to whoever asks in the scope. -/
def Entry.GrantsRead (m : Metadata) (scope : Scope) (e : Entry) : Prop :=
  e.permission.canRead = true ∧ e.tag.Concerns m scope

instance (m : Metadata) (scope : Scope) (e : Entry) : Decidable (e.GrantsRead m scope) :=
  inferInstanceAs (Decidable (_ ∧ _))

/-- An entry does not take reading away. -/
def Entry.LetsRead (e : Entry) : Prop := e.tag = .mask → e.permission.canRead = true

instance (e : Entry) : Decidable e.LetsRead := inferInstanceAs (Decidable (_ → _))

/-- The list permits reading in one scope: no entry takes it away, and some
entry grants it. -/
def Permits (m : Metadata) (scope : Scope) (acl : Acl) : Prop :=
  (∀ e ∈ acl.entries, e.LetsRead) ∧ ∃ e ∈ acl.entries, e.GrantsRead m scope

instance (m : Metadata) (scope : Scope) (acl : Acl) : Decidable (acl.Permits m scope) :=
  inferInstanceAs (Decidable (_ ∧ _))

/-- The list permits reading to the user with this number who is in these
groups: no entry takes it away, and some entry about the user grants it. -/
def PermitsMember (m : Metadata) (uid : Uid) (groups : GroupList) (acl : Acl) : Prop :=
  (∀ e ∈ acl.entries, e.LetsRead) ∧
    ∃ e ∈ acl.entries, e.permission.canRead = true ∧ e.tag.IsAbout m uid groups

/-- A user may read what the list permits in one of the two scopes. -/
theorem permitsMember_iff {m : Metadata} {uid : Uid} {groups : GroupList} {acl : Acl} :
    acl.PermitsMember m uid groups ↔
      acl.Permits m (.user uid) ∨ acl.Permits m (.group groups) := by
  simp only [PermitsMember, Permits, Entry.GrantsRead, Tag.isAbout_iff]
  constructor
  · rintro ⟨hmask, e, he, hread, huser | hgroup⟩
    · exact .inl ⟨hmask, e, he, hread, huser⟩
    · exact .inr ⟨hmask, e, he, hread, hgroup⟩
  · rintro (⟨hmask, e, he, hread, huser⟩ | ⟨hmask, e, he, hread, hgroup⟩)
    · exact ⟨hmask, e, he, hread, .inl huser⟩
    · exact ⟨hmask, e, he, hread, .inr hgroup⟩

/-- The first tag without meaning. -/
def firstUnknown? (acl : Acl) : Option UInt16 := acl.entries.findSome? fun e => e.tag.raw?

theorem firstUnknown?_eq_none_iff_isKnown {acl : Acl} :
    acl.firstUnknown? = none ↔ ∀ e ∈ acl.entries, e.tag.isKnown = true := by
  simp only [firstUnknown?, List.findSome?_eq_none_iff, Tag.isKnown_iff]

/-! ## What a walk finds -/

/-- A mask that takes part adds its refusal to the findings. -/
theorem Tally.count_of_mask (t : Tally) {e : Entry} (h : e.tag = .mask) :
    t.count e true = { t with maskAllowsRead := t.maskAllowsRead && e.permission.canRead } := by
  cases hread : e.permission.canRead <;> simp [Tally.count, h, hread]

/-- Any other entry adds its grant if it takes part. -/
theorem Tally.count_of_not_mask (t : Tally) {e : Entry} (h : e.tag ≠ .mask) (applies : Bool) :
    t.count e applies = { t with hasRead := t.hasRead || (applies && e.permission.canRead) } := by
  cases applies with
  | false => simp [Tally.count]
  | true => cases hread : e.permission.canRead <;> simp [Tally.count, hread]

/-- The findings after all of `entries`, if none of them stops the walk. -/
def Tally.over (m : Metadata) (scope : Scope) (t : Tally) (entries : List Entry) : Tally :=
  ⟨t.hasRead || entries.any fun e => decide (e.GrantsRead m scope),
    t.maskAllowsRead && entries.all fun e => decide e.LetsRead⟩

/-- One step: the entry that comes first adds what it says. -/
theorem Tally.over_cons {m : Metadata} {scope : Scope} (t : Tally) (e : Entry)
    (rest : List Entry) :
    t.over m scope (e :: rest) =
      (t.count e (decide (e.tag = .mask ∨ e.tag.Concerns m scope))).over m scope rest := by
  -- A mask can only take away, and any other entry can only grant.
  by_cases hmask : e.tag = .mask
  · have hgrants : decide (e.GrantsRead m scope) = false := by
      rw [decide_eq_false_iff_not]
      rintro ⟨-, hconcerns⟩
      exact Tag.ne_mask_of_concerns hconcerns hmask
    have hlets : decide e.LetsRead = e.permission.canRead := by
      rw [Bool.eq_iff_iff, decide_eq_true_iff]
      simp [Entry.LetsRead, hmask]
    have happlies : decide (e.tag = .mask ∨ e.tag.Concerns m scope) = true := by simp [hmask]
    rw [happlies, Tally.count_of_mask t hmask]
    simp [Tally.over, hgrants, hlets, Bool.and_assoc]
  · have hgrants : decide (e.GrantsRead m scope) =
        (decide (e.tag = .mask ∨ e.tag.Concerns m scope) && e.permission.canRead) := by
      rw [Bool.eq_iff_iff, decide_eq_true_iff]
      simp [Entry.GrantsRead, hmask, and_comm]
    have hlets : decide e.LetsRead = true := by
      rw [decide_eq_true_iff]
      exact fun h => absurd h hmask
    rw [Tally.count_of_not_mask t hmask]
    simp [Tally.over, hgrants, hlets, Bool.or_assoc]

/-- Before the first entry nothing is found, so the findings over a whole list
are what the list permits. -/
theorem Tally.verdict_over_start {m : Metadata} {scope : Scope} {acl : Acl} :
    (Tally.start.over m scope acl.entries).verdict = .ofBool (decide (acl.Permits m scope)) := by
  have hpermits : ((acl.entries.any fun e => decide (e.GrantsRead m scope)) &&
      acl.entries.all fun e => decide e.LetsRead) = decide (acl.Permits m scope) := by
    rw [Bool.eq_iff_iff]
    simp [Permits, and_comm]
  simp only [Tally.verdict, Tally.over, Tally.start, Bool.false_or, Bool.true_and, hpermits]

/-- A walk ends in front of the first tag without meaning, and otherwise with the
findings over all entries. -/
theorem walk_ending (m : Metadata) (scope : Scope) (t : Tally) (entries : List Entry) :
    (walk m scope t entries).ending =
      match entries.findSome? fun e => e.tag.raw? with
      | some raw => .error raw
      | none => .ok (t.over m scope entries) := by
  induction entries generalizing t with
  | nil => simp [walk, Traced.value, Tally.over]
  | cons e rest ih =>
      cases hraw : e.tag.raw? with
      | some raw =>
          simp [walk, Tag.appliesTo_of_raw hraw, hraw, Traced.fail]
      | none =>
          simp only [walk, Tag.appliesTo_of_known hraw, Traced.after_ending, ih,
            List.findSome?_cons, hraw, Tally.over_cons]

/-- A pass ends with the first tag without meaning as its error, and otherwise
says whether the list permits reading in the scope. -/
theorem pass_ending (acl : Acl) (path : Path) (m : Metadata) (scope : Scope) :
    (acl.pass path m scope).ending =
      match acl.firstUnknown? with
      | some raw => .error (.malformedAcl path (.unknownTag raw))
      | none => .ok (.ofBool (decide (acl.Permits m scope))) := by
  simp only [pass, Traced.bind_ending, Traced.mapError, walk_ending, firstUnknown?]
  cases acl.entries.findSome? fun e => e.tag.raw? with
  | some raw => rfl
  | none => exact congrArg Except.ok Tally.verdict_over_start

end Acl

/-! ## What the mode permits -/

namespace ModeBits

/-- The mode permits reading in one scope. -/
def Permits (m : Metadata) : Scope → Prop
  | .user uid => has m.mode otherRead ∨ (has m.mode ownerRead ∧ uid = m.uid)
  | .group groups => has m.mode groupRead ∧ m.gid ∈ groups

instance (m : Metadata) (scope : Scope) : Decidable (Permits m scope) :=
  match scope with
  | .user _ => inferInstanceAs (Decidable (_ ∨ _))
  | .group _ => inferInstanceAs (Decidable (_ ∧ _))

/-- The mode permits reading to the user with this number who is in these
groups. -/
def PermitsMember (m : Metadata) (uid : Uid) (groups : GroupList) : Prop :=
  has m.mode otherRead ∨ (has m.mode ownerRead ∧ uid = m.uid) ∨
    (has m.mode groupRead ∧ m.gid ∈ groups)

theorem permitsMember_iff {m : Metadata} {uid : Uid} {groups : GroupList} :
    PermitsMember m uid groups ↔ Permits m (.user uid) ∨ Permits m (.group groups) :=
  or_assoc.symm

theorem pass_ending {ε : Type} (m : Metadata) (scope : Scope) :
    (pass m scope : Traced Event ε Verdict).ending = .ok (.ofBool (decide (Permits m scope))) := by
  have hallows : allows m scope = decide (Permits m scope) := by
    rw [Bool.eq_iff_iff, decide_eq_true_iff]
    cases scope <;> simp [allows, Permits, GroupList.contains_iff]
  rw [← hallows]
  rfl

end ModeBits

/-! ## What was loaded permits -/

namespace AclLoad

/-- What was loaded permits reading in one scope; where there is no list, the
mode decides. -/
def Permits (m : Metadata) (scope : Scope) : AclLoad → Prop
  | .entries acl => acl.Permits m scope
  | .unsupported => ModeBits.Permits m scope

instance (m : Metadata) (scope : Scope) (load : AclLoad) : Decidable (load.Permits m scope) :=
  match load with
  | .entries acl => inferInstanceAs (Decidable (acl.Permits m scope))
  | .unsupported => inferInstanceAs (Decidable (ModeBits.Permits m scope))

/-- What was loaded permits reading to the user with this number who is in these
groups. -/
def PermitsMember (m : Metadata) (uid : Uid) (groups : GroupList) : AclLoad → Prop
  | .entries acl => acl.PermitsMember m uid groups
  | .unsupported => ModeBits.PermitsMember m uid groups

theorem permitsMember_iff {m : Metadata} {uid : Uid} {groups : GroupList} {load : AclLoad} :
    load.PermitsMember m uid groups ↔
      load.Permits m (.user uid) ∨ load.Permits m (.group groups) := by
  cases load with
  | entries acl => exact Acl.permitsMember_iff
  | unsupported => exact ModeBits.permitsMember_iff

instance (m : Metadata) (uid : Uid) (groups : GroupList) (load : AclLoad) :
    Decidable (load.PermitsMember m uid groups) :=
  decidable_of_iff _ permitsMember_iff.symm

/-- The first tag without meaning; the mode has none. -/
def firstUnknown? : AclLoad → Option UInt16
  | .entries acl => acl.firstUnknown?
  | .unsupported => none

theorem pass_entries_ending (acl : Acl) (path : Path) (m : Metadata) (scope : Scope) :
    ((entries acl).pass path m scope).ending =
      match acl.firstUnknown? with
      | some raw => .error (.malformedAcl path (.unknownTag raw))
      | none => .ok (.ofVerdict (.ofBool (decide (acl.Permits m scope)))) := by
  simp only [pass, Traced.bind_ending, Acl.pass_ending]
  cases acl.firstUnknown? <;> rfl

theorem pass_isOk_eq (load : AclLoad) (path : Path) (m : Metadata) (scope other : Scope) :
    (load.pass path m scope).ending.isOk = (load.pass path m other).ending.isOk := by
  cases load with
  | unsupported => rfl
  | entries acl =>
      rw [pass_entries_ending, pass_entries_ending]
      cases acl.firstUnknown? <;> rfl

end AclLoad

end ReadAccess
