/-
  Granting more and granting less.

  A list is widened by entries that are added, by masks that are taken away and by bits
  that an entry gains; a mode is widened by bits.  What was permitted stays permitted
  (`Acl.PermitsMember.of_widens`, `ModeBits.PermitsMember.of_includes`), although the pass
  that allows reading may be another one.  So a query about more ends no worse and a query
  about less no better (`Query.widening_keeps_access`).
-/
import ReadAccess.Proofs.Indifference

set_option autoImplicit false

namespace ReadAccess

/-! ## More bits -/

theorem Permission.contains_trans {p q r : Permission} (hpq : p.contains q = true)
    (hqr : q.contains r = true) : p.contains r = true := by
  simp only [contains, beq_iff_eq] at *
  calc p.bits &&& r.bits = p.bits &&& q.bits &&& r.bits := by rw [UInt16.and_assoc, hqr]
    _ = r.bits := by rw [hpq, hqr]

namespace ModeBits

/-- A mode has all bits of another one. -/
def Includes (mode other : UInt32) : Prop := mode &&& other = other

instance (mode other : UInt32) : Decidable (Includes mode other) :=
  inferInstanceAs (Decidable (_ = _))

theorem has_of_includes {mode other bit : UInt32} (h : Includes mode other)
    (hbit : has other bit = true) : has mode bit = true := by
  simp only [has, bne_iff_ne] at *
  intro hnone
  apply hbit
  calc other &&& bit = mode &&& other &&& bit := by rw [h]
    _ = other &&& (mode &&& bit) := by rw [UInt32.and_comm mode other, UInt32.and_assoc]
    _ = 0 := by rw [hnone, UInt32.and_zero]

/-- A mode with more bits permits more, and so do more groups. -/
theorem PermitsMember.of_includes {m n : Metadata} {uid : Uid} {groups more : GroupList}
    (howners : m.SameOwners n) (hmode : Includes n.mode m.mode)
    (hgroups : ∀ gid ∈ groups, gid ∈ more) (h : PermitsMember m uid groups) :
    PermitsMember n uid more := by
  obtain hother | ⟨howner, huid⟩ | ⟨hgroup, hmember⟩ := h
  · exact .inl (has_of_includes hmode hother)
  · exact .inr (.inl ⟨has_of_includes hmode howner, huid.trans howners.uid⟩)
  · refine .inr (.inr ⟨has_of_includes hmode hgroup, ?_⟩)
    rw [← howners.gid]
    exact hgroups _ hmember

end ModeBits

/-! ## Lists that are widened -/

namespace Acl

/-- The entries of a list that is widened: entries are added whose tags are among `added`
and are no masks, masks are taken away, and the entries that stay may gain bits. -/
inductive Widens (added : Tag → Prop) : List Entry → List Entry → Prop where
  | nil : Widens added [] []
  | keep {tag : Tag} {p q : Permission} {es fs : List Entry} (hbits : q.contains p = true)
      (h : Widens added es fs) : Widens added (⟨tag, p⟩ :: es) (⟨tag, q⟩ :: fs)
  | add {f : Entry} {es fs : List Entry} (hadded : added f.tag) (hmask : f.tag ≠ .mask)
      (h : Widens added es fs) : Widens added es (f :: fs)
  | unmask {e : Entry} {es fs : List Entry} (hmask : e.tag = .mask)
      (h : Widens added es fs) : Widens added (e :: es) fs

section Widening

variable {added : Tag → Prop} {es fs : List Entry}

/-- An entry other than a mask stays, with all of its bits. -/
theorem Widens.exists_wider (h : Widens added es fs) :
    ∀ e ∈ es, e.tag ≠ .mask →
      ∃ f ∈ fs, f.tag = e.tag ∧ f.permission.contains e.permission = true := by
  induction h with
  | nil => exact nofun
  | @keep tag p q es fs hbits _ ih =>
      intro e he hmask
      obtain rfl | he := List.mem_cons.mp he
      · exact ⟨⟨tag, q⟩, List.mem_cons_self, rfl, hbits⟩
      · obtain ⟨f, hf, hwider⟩ := ih e he hmask
        exact ⟨f, List.mem_cons_of_mem _ hf, hwider⟩
  | add _ _ _ ih =>
      intro e he hmask
      obtain ⟨f, hf, hwider⟩ := ih e he hmask
      exact ⟨f, List.mem_cons_of_mem _ hf, hwider⟩
  | unmask htag _ ih =>
      intro e he hmask
      obtain rfl | he := List.mem_cons.mp he
      · exact absurd htag hmask
      · exact ih e he hmask

/-- An entry was there before, perhaps with fewer bits, or it is none of the masks and was
added. -/
theorem Widens.exists_narrower (h : Widens added es fs) :
    ∀ f ∈ fs, (∃ e ∈ es, e.tag = f.tag ∧ f.permission.contains e.permission = true) ∨
      added f.tag ∧ f.tag ≠ .mask := by
  induction h with
  | nil => exact nofun
  | @keep tag p q es fs hbits _ ih =>
      intro f hf
      obtain rfl | hf := List.mem_cons.mp hf
      · exact .inl ⟨⟨tag, p⟩, List.mem_cons_self, rfl, hbits⟩
      · refine (ih f hf).imp_left ?_
        rintro ⟨e, he, hnarrower⟩
        exact ⟨e, List.mem_cons_of_mem _ he, hnarrower⟩
  | add hadded hmask _ ih =>
      intro f hf
      obtain rfl | hf := List.mem_cons.mp hf
      · exact .inr ⟨hadded, hmask⟩
      · exact ih f hf
  | unmask _ _ ih =>
      intro f hf
      refine (ih f hf).imp_left ?_
      rintro ⟨e, he, hnarrower⟩
      exact ⟨e, List.mem_cons_of_mem _ he, hnarrower⟩

/-- No mask withholds more than before. -/
theorem Widens.letsRead (h : Widens added es fs) (hlets : ∀ e ∈ es, e.LetsRead) :
    ∀ f ∈ fs, f.LetsRead := by
  intro f hf hmask
  obtain ⟨e, he, htag, hbits⟩ | ⟨-, hnot⟩ := h.exists_narrower f hf
  · exact Permission.contains_trans hbits (hlets e he (htag.trans hmask))
  · exact absurd hmask hnot

/-- Tags without meaning are nowhere if none is added. -/
theorem Widens.isKnown (h : Widens (fun tag => tag.isKnown = true) es fs)
    (hknown : ∀ e ∈ es, e.tag.isKnown = true) : ∀ f ∈ fs, f.tag.isKnown = true := by
  intro f hf
  obtain ⟨e, he, htag, -⟩ | ⟨hadded, -⟩ := h.exists_narrower f hf
  · rw [← htag]
    exact hknown e he
  · exact hadded

/-- A list that is widened to one of known tags has no other tags itself. -/
theorem Widens.isKnown_of_wider (h : Widens added es fs)
    (hknown : ∀ f ∈ fs, f.tag.isKnown = true) : ∀ e ∈ es, e.tag.isKnown = true := by
  intro e he
  by_cases hmask : e.tag = .mask
  · rw [hmask]
    rfl
  · obtain ⟨f, hf, htag, -⟩ := h.exists_wider e he hmask
    rw [← htag]
    exact hknown f hf

end Widening

/-- Whom an entry is about, it is about also as a member of more groups. -/
theorem Tag.IsAbout.mono {m n : Metadata} {uid : Uid} {groups more : GroupList} {tag : Tag}
    (howners : m.SameOwners n) (hgroups : ∀ gid ∈ groups, gid ∈ more)
    (h : tag.IsAbout m uid groups) : tag.IsAbout n uid more := by
  cases tag with
  | owner => exact Eq.trans h howners.uid
  | owningGroup =>
      show n.gid ∈ more
      rw [← howners.gid]
      exact hgroups _ h
  | group gid => exact hgroups gid h
  | user _ | mask | other | unknown _ => exact h

/-- A list that is widened permits more, and so do more groups. -/
theorem PermitsMember.of_widens {added : Tag → Prop} {acl wider : Acl} {m n : Metadata}
    {uid : Uid} {groups more : GroupList} (hwidens : Widens added acl.entries wider.entries)
    (howners : m.SameOwners n) (hgroups : ∀ gid ∈ groups, gid ∈ more)
    (h : acl.PermitsMember m uid groups) : wider.PermitsMember n uid more := by
  obtain ⟨hlets, e, he, hread, habout⟩ := h
  refine ⟨hwidens.letsRead hlets, ?_⟩
  -- The entry that grants reading is no mask, so it is still there.
  have hmask : e.tag ≠ .mask := by
    intro hmask
    rw [hmask] at habout
    exact habout
  obtain ⟨f, hf, htag, hbits⟩ := hwidens.exists_wider e he hmask
  refine ⟨f, hf, Permission.contains_trans hbits hread, ?_⟩
  rw [htag]
  exact habout.mono howners hgroups

end Acl

/-! ## Answers that are widened -/

/-- What was loaded is widened: the list, or the mode where there is no list. -/
inductive AclLoad.Widens (added : Acl.Tag → Prop) (m n : Metadata) : AclLoad → AclLoad → Prop where
  | entries {acl wider : Acl} (h : Acl.Widens added acl.entries wider.entries) :
      AclLoad.Widens added m n (.entries acl) (.entries wider)
  | unsupported (h : ModeBits.Includes n.mode m.mode) :
      AclLoad.Widens added m n .unsupported .unsupported

namespace AclLoad

variable {added : Acl.Tag → Prop} {m n : Metadata} {load wider : AclLoad}

theorem PermitsMember.of_widens {uid : Uid} {groups more : GroupList}
    (hwidens : Widens added m n load wider) (howners : m.SameOwners n)
    (hgroups : ∀ gid ∈ groups, gid ∈ more) (h : load.PermitsMember m uid groups) :
    wider.PermitsMember n uid more := by
  cases hwidens with
  | entries hlist => exact Acl.PermitsMember.of_widens hlist howners hgroups h
  | unsupported hmode => exact ModeBits.PermitsMember.of_includes howners hmode hgroups h

theorem Widens.firstUnknown?_eq_none (h : Widens (fun tag => tag.isKnown = true) m n load wider)
    (hknown : load.firstUnknown? = none) : wider.firstUnknown? = none := by
  cases h with
  | unsupported _ => rfl
  | entries hlist =>
      rw [firstUnknown?, Acl.firstUnknown?_eq_none_iff_isKnown] at *
      exact hlist.isKnown hknown

theorem Widens.firstUnknown?_eq_none_of_wider (h : Widens added m n load wider)
    (hknown : wider.firstUnknown? = none) : load.firstUnknown? = none := by
  cases h with
  | unsupported _ => rfl
  | entries hlist =>
      rw [firstUnknown?, Acl.firstUnknown?_eq_none_iff_isKnown] at *
      exact hlist.isKnown_of_wider hknown

end AclLoad

namespace Query

/-- The answers agree on the user and on the owners of the file, the user is in more
groups, and what was loaded is widened. -/
structure Answers.Widens (added : Acl.Tag → Prop) (a b : Answers) : Prop where
  uid : a.record.uid = b.record.uid
  owners : a.metadata.SameOwners b.metadata
  groups : ∀ gid ∈ a.groups, gid ∈ b.groups
  load : AclLoad.Widens added a.metadata b.metadata a.load b.load

/-! ## Verdicts with everything at hand -/

section Settle

variable {path : Path} {m : Metadata} {uid : Uid} {load : AclLoad} {groups : GroupList}
  {verdict : Verdict}

/-- A decision that comes to a verdict has met no tag without meaning, and the verdict
tells what was permitted. -/
theorem settle_eq_ok_iff :
    settle path m uid load (.ok groups) = .ok verdict ↔
      load.firstUnknown? = none ∧
        verdict = .ofBool (decide (load.PermitsMember m uid groups)) := by
  cases hunknown : load.firstUnknown? with
  | some raw => simp [settle_of_unknown hunknown]
  | none => simp [settle, hunknown, eq_comm]

end Settle

section Runs

variable {a b : Answers} {c d : Collaborators} {user other : String} {path place : Path}

theorem Answers.Given.ending_eq_ok_iff (h : a.Given c user path) {verdict : Verdict} :
    (run c user path).ending = .ok verdict ↔
      a.load.firstUnknown? = none ∧
        verdict = .ofBool (decide (a.load.PermitsMember a.metadata a.record.uid a.groups)) := by
  rw [h.ending, settle_eq_ok_iff]

theorem Answers.Widens.permitsMember {added : Acl.Tag → Prop} (h : a.Widens added b)
    (hpermits : a.load.PermitsMember a.metadata a.record.uid a.groups) :
    b.load.PermitsMember b.metadata b.record.uid b.groups := by
  rw [← h.uid]
  exact .of_widens h.load h.owners h.groups hpermits

/-- **Granting more never takes access away, and granting less never gives it.**  A query
that is allowed stays allowed with more groups, with further entries other than masks whose
tags have a meaning, with masks taken away, with more bits in the entries and, where there
is no list, with more bits in the mode.  A query that is denied stays denied the other way
round, whatever the tags of the entries that are taken away. -/
theorem widening_keeps_access (ha : a.Given c user path) (hb : b.Given d other place) :
    (a.Widens (fun tag => tag.isKnown = true) b →
        (run c user path).ending = .ok .allowed → (run d other place).ending = .ok .allowed) ∧
      (a.Widens (fun _ => True) b →
        (run d other place).ending = .ok .denied → (run c user path).ending = .ok .denied) := by
  simp only [ha.ending_eq_ok_iff, hb.ending_eq_ok_iff]
  constructor
  · rintro hwidens ⟨hknown, hallowed⟩
    refine ⟨hwidens.load.firstUnknown?_eq_none hknown, ?_⟩
    have hpermits := of_decide_eq_true (Verdict.ofBool_eq_allowed_iff.mp hallowed.symm)
    exact (Verdict.ofBool_eq_allowed_iff.mpr (decide_eq_true (hwidens.permitsMember hpermits))).symm
  · rintro hwidens ⟨hknown, hdenied⟩
    refine ⟨hwidens.load.firstUnknown?_eq_none_of_wider hknown, ?_⟩
    have hnot := of_decide_eq_false (Verdict.ofBool_eq_denied_iff.mp hdenied.symm)
    exact (Verdict.ofBool_eq_denied_iff.mpr
      (decide_eq_false fun hpermits => hnot (hwidens.permitsMember hpermits))).symm

end Runs

/-- A member of one group, which may read by a list with a mask. -/
def groupReads : Answers where
  record := ⟨501, 100⟩
  metadata := ⟨500, 50, 0o100600⟩
  load := .entries ⟨[⟨.owner, ⟨6⟩⟩, ⟨.group 42, ⟨4⟩⟩, ⟨.mask, ⟨4⟩⟩, ⟨.other, ⟨0⟩⟩]⟩
  groups := ⟨[42]⟩

/-- The same member in a further group, by a list without the mask in which the user has an
entry as well and the group may also write. -/
def userReads : Answers where
  record := ⟨501, 100⟩
  metadata := ⟨500, 50, 0o100600⟩
  load := .entries ⟨[⟨.owner, ⟨6⟩⟩, ⟨.user 501, ⟨4⟩⟩, ⟨.group 42, ⟨6⟩⟩, ⟨.other, ⟨0⟩⟩]⟩
  groups := ⟨[7, 42]⟩

/-- A member of the group, to whom a mask denies what the list of `userReads` grants. -/
def masked : Answers where
  record := ⟨501, 100⟩
  metadata := ⟨500, 50, 0o100600⟩
  load := .entries
    ⟨[⟨.owner, ⟨6⟩⟩, ⟨.user 501, ⟨4⟩⟩, ⟨.group 42, ⟨6⟩⟩, ⟨.mask, ⟨2⟩⟩, ⟨.other, ⟨0⟩⟩]⟩
  groups := ⟨[7, 42]⟩

/-- The same under one more mask, in one group less and without the entry for the user. -/
def maskedTwice : Answers where
  record := ⟨501, 100⟩
  metadata := ⟨500, 50, 0o100600⟩
  load := .entries
    ⟨[⟨.owner, ⟨6⟩⟩, ⟨.group 42, ⟨4⟩⟩, ⟨.mask, ⟨0⟩⟩, ⟨.mask, ⟨7⟩⟩, ⟨.other, ⟨0⟩⟩]⟩
  groups := ⟨[42]⟩

/-- The pass for the groups allows the first query and the pass for the user alone the wider
one; the second mask changes nothing about a query that is denied. -/
theorem widening_keeps_access_maskTaken :
    groupReads.Widens (fun tag => tag.isKnown = true) userReads ∧
      (run userReads.collaborators "eve" ⟨[47]⟩).ending = .ok .allowed ∧
      maskedTwice.Widens (fun _ => True) masked ∧
      (run maskedTwice.collaborators "eve" ⟨[47]⟩).ending = .ok .denied := by
  have hwidens : groupReads.Widens (fun tag => tag.isKnown = true) userReads := by
    refine ⟨rfl, ⟨rfl, rfl⟩, ?_, .entries ?_⟩
    · show ∀ gid ∈ [42], gid ∈ [7, 42]
      simp
    · exact .keep rfl (.add rfl nofun (.keep rfl (.unmask rfl (.keep rfl .nil))))
  have hnarrows : maskedTwice.Widens (fun _ => True) masked := by
    refine ⟨rfl, ⟨rfl, rfl⟩, ?_, .entries ?_⟩
    · show ∀ gid ∈ [42], gid ∈ [7, 42]
      simp
    · exact .keep rfl (.add trivial nofun
        (.keep rfl (.keep rfl (.unmask rfl (.keep rfl .nil)))))
  have hallowed : (run groupReads.collaborators "eve" ⟨[47]⟩).ending = .ok .allowed := rfl
  have hdenied : (run masked.collaborators "eve" ⟨[47]⟩).ending = .ok .denied := rfl
  refine ⟨hwidens, ?_, hnarrows, ?_⟩
  · exact (widening_keeps_access (groupReads.given_collaborators _ _)
      (userReads.given_collaborators _ _)).1 hwidens hallowed
  · exact (widening_keeps_access (maskedTwice.given_collaborators _ _)
      (masked.given_collaborators _ _)).2 hnarrows hdenied

end Query

end ReadAccess
