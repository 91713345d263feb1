/-
  Lists that are written and read again.

  A number is handed over in base ten where a list is written and under a name where it is
  read.  If both lead back to the number, for every number in a draft, the list that is
  loaded is the canonical form of the draft (`Live.loadAcl_storeAcl`): its entries in
  stored order, and a mask if it needs one.  Without this much an attempt to write still
  changes one file or nothing, and does not depend on the order of the draft.
-/
import ReadAccess.Proofs.Storing

set_option autoImplicit false

namespace ReadAccess

open Acl (Draft Entry NamedEntry Tag)
open Permission (places)

namespace Host

/-! ## Numbers that are kept -/

/-- A number is stored as itself and comes back as itself.  In base ten it is nobody's
name or the name of a row with this number, and if it is the number of a row, it is handed
over under a name that leads back to it.  None of the lookups fails. -/
structure KeepsNumber {α : Type} (row : α → Principal) (table : List α) (id : UInt32) :
    Prop where
  numeral : ∃ found, lookUpName row table (.ofString (Text.decimal id.toNat)) = .ok found ∧
    ∀ a ∈ found, (row a).id = id
  named : ∃ found, lookUpId row table id = .ok found ∧
    ∀ a ∈ found, ∃ name, (row a).name = .ofString name ∧ name ≠ "" ∧
      ∃ b, lookUpName row table (.ofString name) = .ok (some b) ∧ (row b).id = id

section Principals

variable {α : Type} {row : α → Principal} {table : List α} {id : UInt32}

theorem KeepsNumber.storedId_eq (h : KeepsNumber row table id) :
    storedId row table id = .ok id := by
  obtain ⟨found, hfound, hid⟩ := h.numeral
  rw [storedId, hfound]
  cases found with
  | none => rfl
  | some a => exact congrArg Except.ok (hid a rfl)

theorem KeepsNumber.comesBackAs (h : KeepsNumber row table id) : ComesBackAs row table id id := by
  obtain ⟨found, hfound, hnamed⟩ := h.named
  cases found with
  | some a =>
      obtain ⟨name, hname, hne, b, hback, hid⟩ := hnamed a rfl
      refine ⟨name, ?_, hne, .row b hback hid⟩
      rw [nameOf, hfound]
      exact congrArg Except.ok (by rw [hname, Text.RawText.shown_ofString])
  | none =>
      -- The number is handed over in base ten, as it was when it was stored.
      obtain ⟨other, hother, hid⟩ := h.numeral
      refine ⟨Text.decimal id.toNat, by rw [nameOf, hfound], Text.decimal_ne_empty _, ?_⟩
      cases other with
      | some a => exact .row a hother (hid a rfl)
      | none => exact .numeral hother (Text.readNumeral_decimal (Nat.le_of_lt_succ id.toNat_lt))

end Principals

/-- The number in a tag is kept, if there is one. -/
def KeepsTag (h : Host) : Tag → Prop
  | .user uid => KeepsNumber Account.toPrincipal h.users uid
  | .group gid => KeepsNumber id h.groups gid
  | _ => True

/-- An entry whose number is kept is stored as itself. -/
theorem storedEntry_of_keepsTag {h : Host} {e : Entry} (hkeeps : h.KeepsTag e.tag) :
    h.storedEntry e = .ok (kept e) := by
  obtain ⟨tag, permission⟩ := e
  cases tag with
  | user uid =>
      have hid : storedId Account.toPrincipal h.users uid = .ok uid := hkeeps.storedId_eq
      simp only [storedEntry, hid]
      rfl
  | group gid =>
      have hid : storedId id h.groups gid = .ok gid := hkeeps.storedId_eq
      simp only [storedEntry, hid]
      rfl
  | owner | owningGroup | mask | other | unknown => rfl

/-! ## Canonical forms -/

/-- What the entries that a mask bounds grant together, and nothing else. -/
structure IsUnion (entries : List Entry) (p : Permission) : Prop where
  cut : p.cut = p
  grants : ∀ place ∈ places, p.contains place = true ↔
    ∃ e ∈ entries, isMasked e = true ∧ e.permission.contains place = true

/-- A list has the entries of a draft, without the bits that grant nothing, and a mask
that bounds nothing if the draft needs one.  They are ordered by class, and users and
groups by number. -/
structure IsCanonical (given listed : List Entry) : Prop where
  ordered : listed.Pairwise Entry.ComesBefore
  unmasked : ¬ NeedsMask given → listed.Perm (given.map kept)
  masked : NeedsMask given → ∃ p, IsUnion given p ∧ listed.Perm (⟨.mask, p⟩ :: given.map kept)

section Canonical

variable {entries : List Entry}

theorem contains_foldl_union {place : Permission} (hplace : place ∈ places) (p : Permission)
    (entries : List Entry) :
    (entries.foldl (fun q e => q ||| e.permission) p).contains place =
      (p.contains place || entries.any fun e => e.permission.contains place) := by
  induction entries generalizing p with
  | nil => simp
  | cons e rest ih =>
      rw [List.foldl_cons, ih, Permission.contains_union hplace, List.any_cons, Bool.or_assoc]

theorem cut_foldl_union (p : Permission) (entries : List Entry) :
    (entries.foldl (fun q e => q ||| e.permission) p).cut =
      entries.foldl (fun q e => q ||| e.permission.cut) p.cut := by
  induction entries generalizing p with
  | nil => rfl
  | cons e rest ih => rw [List.foldl_cons, ih, Permission.cut_union, List.foldl_cons]

theorem maskedUnion_map_kept (entries : List Entry) :
    maskedUnion (entries.map kept) = (maskedUnion entries).cut := by
  have hmasked : (entries.map kept).filter isMasked = (entries.filter isMasked).map kept :=
    List.filter_map
  rw [maskedUnion, maskedUnion, hmasked, List.foldl_map, cut_foldl_union]
  rfl

theorem isUnion_maskedUnion (entries : List Entry) :
    IsUnion entries (maskedUnion (entries.map kept)) := by
  rw [maskedUnion_map_kept]
  refine ⟨Permission.cut_cut _, ?_⟩
  intro place hplace
  have hnothing : Permission.nothing.contains place = false := by
    obtain ⟨i, -, hbit⟩ := Permission.exists_bit_of_mem_places hplace
    rw [hbit]
    exact BitVec.getLsbD_zero
  rw [Permission.contains_cut hplace, maskedUnion, contains_foldl_union hplace, hnothing,
    Bool.false_or, List.any_eq_true]
  simp only [List.mem_filter, and_assoc]

/-- Entries without the bits that grant nothing lose no more of them. -/
theorem kept_of_mem_withMask {e : Entry} (he : e ∈ withMask (entries.map kept)) : kept e = e := by
  obtain rfl | he := eq_or_mem_of_mem_withMask he
  · exact congrArg (Entry.mk .mask) (isUnion_maskedUnion entries).cut
  · obtain ⟨d, -, rfl⟩ := List.mem_map.mp he
    exact congrArg (Entry.mk d.tag) (Permission.cut_cut d.permission)

theorem needsMask_map_kept : NeedsMask (entries.map kept) ↔ NeedsMask entries := by
  simp only [NeedsMask, List.mem_map, exists_exists_and_eq_and, forall_exists_index, and_imp,
    forall_apply_eq_imp_iff₂]
  rfl

/-- What is stored for kept entries is their canonical form. -/
theorem isCanonical_storedOrder (hdistinct : Acl.Distinct (entries.map kept)) :
    IsCanonical entries (Acl.storedOrder (withMask (entries.map kept))) := by
  refine ⟨Acl.storedOrder_comesBefore (withMask_distinct hdistinct), ?_, ?_⟩
  · intro hneeds
    have hperm := Acl.storedOrder_perm (withMask (entries.map kept))
    rw [withMask_of_not_needsMask (mt needsMask_map_kept.mp hneeds)] at hperm ⊢
    exact hperm
  · intro hneeds
    have hperm := Acl.storedOrder_perm (withMask (entries.map kept))
    rw [withMask_of_needsMask (needsMask_map_kept.mpr hneeds)] at hperm ⊢
    exact ⟨_, isUnion_maskedUnion entries, hperm.trans (List.perm_append_comm)⟩

end Canonical

/-- A draft that is taken as it is, for a file whose list can be written. -/
structure TakesAsIs (h : Host) (path : Path) (draft : Draft) : Prop where
  writable : h.Writable path
  known : ∀ e ∈ draft.entries, e.tag.isKnown = true
  distinct : (draft.entries.map Entry.tag).Nodup
  required : ∀ tag ∈ requiredTags, ∃ e ∈ draft.entries, e.tag = tag
  keeps : ∀ e ∈ draft.entries, h.KeepsTag e.tag

namespace TakesAsIs

variable {h : Host} {path : Path} {draft : Draft}

theorem takes (hasis : h.TakesAsIs path draft) :
    h.Takes draft.entries (draft.entries.map kept) := by
  refine ⟨hasis.known, ?_, ?_, ?_⟩
  · rw [List.forall₂_map_right_iff, List.forall₂_same]
    intro e he
    exact storedEntry_of_keepsTag (hasis.keeps e he)
  · rw [List.map_map]
    exact hasis.distinct
  · intro tag htag
    obtain ⟨e, he, hetag⟩ := hasis.required tag htag
    exact ⟨kept e, List.mem_map_of_mem he, hetag⟩

theorem distinct_map_kept (hasis : h.TakesAsIs path draft) :
    Acl.Distinct (draft.entries.map kept) := hasis.takes.distinct_taken

/-- The numbers that are stored are kept. -/
theorem keepsTag_of_mem (hasis : h.TakesAsIs path draft) {e : Entry}
    (he : e ∈ withMask (draft.entries.map kept)) : h.KeepsTag e.tag := by
  obtain rfl | he := eq_or_mem_of_mem_withMask he
  · exact trivial
  · obtain ⟨d, hd, rfl⟩ := List.mem_map.mp he
    exact hasis.keeps d hd

end TakesAsIs

end Host

namespace Live

open Host (KeepsNumber NameLeadsTo kept withMask)

variable {h : Host} {path : Path} {draft : Draft}

/-! ## Loading -/

theorem principalId_of_leadsTo {α : Type} {row : α → Host.Principal} {table : List α}
    {name : String} {id : UInt32} (hleads : NameLeadsTo row table name id) (task : SystemTask)
    (defect : AclDefect) :
    principalId row (Host.lookUpName row table (.ofString name)) task defect path name =
      .ok id := by
  cases hleads with
  | row a hfound hid =>
      rw [principalId.eq_def, hfound]
      exact congrArg Except.ok hid
  | numeral hnone hread =>
      rw [principalId.eq_def, hnone]
      simp only [hread, UInt32.ofNat_toNat]

/-- An entry whose number is kept is handed over as one that turns back into it. -/
theorem exists_nameEntry_of_keepsTag (path : Path) {e : Entry} (hknown : e.tag.isKnown = true)
    (hkeeps : h.KeepsTag e.tag) :
    ∃ n, h.nameEntry e = .ok n ∧ entryOf h path n = .ok (kept e) := by
  obtain ⟨tag, permission⟩ := e
  cases tag with
  | user uid =>
      obtain ⟨name, hname, hne, hleads⟩ := Host.KeepsNumber.comesBackAs hkeeps
      refine ⟨⟨.user, name, permission⟩, ?_, ?_⟩
      · simp only [Host.nameEntry, hname]
        rfl
      · simp only [entryOf, tagOf, String.isEmpty_iff, hne, if_false, Host.userNamed,
          principalId_of_leadsTo hleads]
        rfl
  | group gid =>
      obtain ⟨name, hname, hne, hleads⟩ := Host.KeepsNumber.comesBackAs hkeeps
      refine ⟨⟨.group, name, permission⟩, ?_, ?_⟩
      · simp only [Host.nameEntry, hname]
        rfl
      · simp only [entryOf, tagOf, String.isEmpty_iff, hne, if_false, Host.groupNamed,
          principalId_of_leadsTo hleads]
        rfl
  | owner | owningGroup | mask | other => exact ⟨_, rfl, rfl⟩
  | unknown raw => cases hknown

/-- A list with entries is loaded as it is stored if every number in it is kept. -/
theorem loadAcl_of_keepsTag {stored : List Entry} (hpath : path.hasNul = false)
    (hstored : h.storedEntries path = .ok stored) (hne : stored ≠ [])
    (hknown : ∀ e ∈ stored, e.tag.isKnown = true) (hkeeps : ∀ e ∈ stored, h.KeepsTag e.tag)
    (m : Metadata) : (loadAcl h path m).ending = .ok (.entries ⟨stored.map kept⟩) := by
  obtain ⟨named, hnamed⟩ := exists_forall₂ fun e he =>
    exists_nameEntry_of_keepsTag path (hknown e he) (hkeeps e he)
  have hentries : named.mapM (entryOf h path) = .ok (stored.map kept) := by
    rw [mapM_eq_ok_iff, List.forall₂_map_right_iff]
    exact List.Forall₂.flip (hnamed.imp fun _ _ hn => hn.2)
  have hnames := hnamed.imp fun _ _ hn => hn.1
  rw [loadAcl_of_forall₂ hpath hstored hne hnames, hentries]
  rfl

/-! ## Writing, then loading -/

/-- A draft that is taken as it is gets written, and its canonical form is loaded. -/
theorem exists_loadAcl_of_takesAsIs (hasis : h.TakesAsIs path draft) :
    ∃ h', h.storeAcl path draft = .ok h' ∧
      ∀ m, ∃ acl, (loadAcl h' path m).ending = .ok (.entries acl) ∧
        Host.IsCanonical draft.entries acl.entries := by
  let stored := Acl.storedOrder (withMask (draft.entries.map kept))
  have hmem : ∀ {e : Entry}, e ∈ stored ↔ e ∈ withMask (draft.entries.map kept) :=
    (Acl.storedOrder_perm _).mem_iff
  refine ⟨h.withList path stored, ?_, ?_⟩
  · exact Host.storeAcl_eq_ok_iff.mpr ⟨hasis.writable, _, hasis.takes, rfl⟩
  · intro m
    obtain ⟨hpath, f, hfile, -⟩ := hasis.writable
    have hlist : (h.withList path stored).storedEntries path = .ok stored := by
      rw [Host.storedEntries, Host.fileAt?_withList, if_pos rfl, hfile]
      exact congrArg Except.ok (Acl.storedOrder_storedOrder _)
    have hne : stored ≠ [] := by
      obtain ⟨e, he, -⟩ := hasis.required .owner List.mem_cons_self
      exact List.ne_nil_of_mem (hmem.mpr (Host.mem_withMask_of_mem (List.mem_map_of_mem he)))
    have hdistinct := Host.withMask_distinct hasis.distinct_map_kept
    have hknown : ∀ e ∈ stored, e.tag.isKnown = true := fun e he => hdistinct.known e (hmem.mp he)
    have hkeeps : ∀ e ∈ stored, h.KeepsTag e.tag := fun e he => hasis.keepsTag_of_mem (hmem.mp he)
    have hload := loadAcl_of_keepsTag hpath hlist hne hknown hkeeps m
    have hkept : stored.map kept = stored := by
      have hself : ∀ e ∈ stored, kept e = e :=
        fun e he => Host.kept_of_mem_withMask (hmem.mp he)
      exact (List.map_congr_left hself).trans (List.map_id stored)
    rw [hkept] at hload
    exact ⟨⟨stored⟩, hload, Host.isCanonical_storedOrder hasis.distinct_map_kept⟩

/-- Loads of other files know nothing of a list that is written. -/
theorem loadAcl_withList_of_ne {place : Path} (hplace : place ≠ path) (entries : List Entry)
    (m : Metadata) : loadAcl (h.withList path entries) place m = loadAcl h place m := by
  have hstored : (h.withList path entries).storedEntries place = h.storedEntries place := by
    rw [Host.storedEntries, Host.fileAt?_withList, if_neg hplace, Host.storedEntries]
  have hread : (h.withList path entries).readAcl place = h.readAcl place := by
    rw [Host.readAcl, hstored]
    rfl
  rw [loadAcl, hread]
  rfl

/-- **Writing a list and reading it again gives its canonical form.**  A draft that is
taken as it is gets written, and what is loaded from the file is its canonical form.
Whatever the draft and the host, the order of its entries does not matter: two drafts of
the same entries are written as the same list, or neither is written.  A draft is written
exactly if the file can be written and the host takes all entries; an attempt that fails
leaves the host as it was, and no attempt changes what is loaded from another file. -/
theorem loadAcl_storeAcl (h : Host) (path : Path) :
    (∀ draft, h.TakesAsIs path draft →
      ∃ h', h.storeAcl path draft = .ok h' ∧
        ∀ m, ∃ acl, (loadAcl h' path m).ending = .ok (.entries acl) ∧
          Host.IsCanonical draft.entries acl.entries) ∧
      (∀ draft other : Draft, draft.entries.Perm other.entries →
        (∃ h', h.storeAcl path draft = .ok h' ∧ h.storeAcl path other = .ok h') ∨
          ∃ e e', h.storeAcl path draft = .error e ∧ h.storeAcl path other = .error e') ∧
      (∀ draft : Draft, (∃ h', h.storeAcl path draft = .ok h') ↔
        h.Writable path ∧ ∃ taken, h.Takes draft.entries taken) ∧
      (∀ (draft : Draft) (e : IoError), h.storeAcl path draft = .error e →
        h.attempted path draft = h) ∧
      ∀ (draft : Draft) (place : Path), place ≠ path → ∀ m,
        loadAcl (h.attempted path draft) place m = loadAcl h place m := by
  refine ⟨fun draft => exists_loadAcl_of_takesAsIs, ?_, ?_, ?_, ?_⟩
  · intro draft other hperm
    cases hdraft : h.storeAcl path draft with
    | ok h' => exact .inl ⟨h', rfl, (Host.storeAcl_perm hperm).mp hdraft⟩
    | error e =>
        cases hother : h.storeAcl path other with
        | ok h' => cases hdraft.symm.trans ((Host.storeAcl_perm hperm).mpr hother)
        | error e' => exact .inr ⟨e, e', rfl, rfl⟩
  · intro draft
    simp only [Host.storeAcl_eq_ok_iff]
    constructor
    · rintro ⟨h', hwritable, taken, htakes, -⟩
      exact ⟨hwritable, taken, htakes⟩
    · rintro ⟨hwritable, taken, htakes⟩
      exact ⟨_, hwritable, taken, htakes, rfl⟩
  · intro draft e
    exact Host.attempted_of_error
  · intro draft place hplace m
    cases hstores : h.storeAcl path draft with
    | error e => rw [Host.attempted_of_error hstores]
    | ok h' =>
        rw [Host.attempted_of_ok hstores]
        obtain ⟨-, taken, -, rfl⟩ := Host.storeAcl_eq_ok_iff.mp hstores
        exact loadAcl_withList_of_ne hplace _ m

/-- A host with a file, a user and a group. -/
def soloOffice : Host where
  users := [⟨⟨.ofString "alice", 501, none, none, true, true⟩, 100, []⟩]
  groups := [⟨.ofString "staff", 42, none, none, true, true⟩]
  files := [⟨.ofString "/f", 500, 50, 0o100640, none, .absent, none⟩]
  habit := .plain
  currentUid := 0

/-- A draft in no order.  It is about a user and a group with names and a user without,
has no mask, and grants a bit that means nothing. -/
def scattered : Draft :=
  ⟨[⟨.other, ⟨0⟩⟩, ⟨.group 42, ⟨5⟩⟩, ⟨.user 502, ⟨12⟩⟩, ⟨.owner, ⟨6⟩⟩, ⟨.user 501, ⟨2⟩⟩,
    ⟨.owningGroup, ⟨0⟩⟩]⟩

/-- The canonical form of the draft, with a mask. -/
def gathered : List Entry :=
  [⟨.owner, ⟨6⟩⟩, ⟨.user 501, ⟨2⟩⟩, ⟨.user 502, ⟨4⟩⟩, ⟨.owningGroup, ⟨0⟩⟩, ⟨.group 42, ⟨5⟩⟩,
    ⟨.mask, ⟨7⟩⟩, ⟨.other, ⟨0⟩⟩]

/-- The draft is written, and its canonical form is loaded. -/
theorem loadAcl_storeAcl_scattered :
    soloOffice.TakesAsIs (.ofString "/f") scattered ∧
      Host.IsCanonical scattered.entries gathered ∧
      ∃ h', soloOffice.storeAcl (.ofString "/f") scattered = .ok h' ∧
        (loadAcl h' (.ofString "/f") ⟨500, 50, 0o100640⟩).ending = .ok (.entries ⟨gathered⟩) := by
  have halice : KeepsNumber Host.Account.toPrincipal soloOffice.users 501 := by
    refine ⟨⟨none, rfl, by simp⟩, ⟨_, rfl, ?_⟩⟩
    rintro a ⟨⟩
    exact ⟨"alice", rfl, by decide, _, rfl, rfl⟩
  have hnobody : KeepsNumber Host.Account.toPrincipal soloOffice.users 502 :=
    ⟨⟨none, rfl, by simp⟩, ⟨none, rfl, by simp⟩⟩
  have hstaff : KeepsNumber id soloOffice.groups 42 := by
    refine ⟨⟨none, rfl, by simp⟩, ⟨_, rfl, ?_⟩⟩
    rintro a ⟨⟩
    exact ⟨"staff", rfl, by decide, _, rfl, rfl⟩
  have hasis : soloOffice.TakesAsIs (.ofString "/f") scattered := by
    refine ⟨⟨rfl, _, rfl, rfl⟩, by decide, by decide, by decide, ?_⟩
    simp [scattered, Host.KeepsTag, halice, hnobody, hstaff]
  obtain ⟨hreads, -⟩ := loadAcl_storeAcl soloOffice (.ofString "/f")
  obtain ⟨h', hstores, hloads⟩ := hreads scattered hasis
  obtain ⟨acl, hload, hcanonical⟩ := hloads ⟨500, 50, 0o100640⟩
  have hgathered : ((soloOffice.storeAcl (.ofString "/f") scattered).toOption.map fun h' =>
      (loadAcl h' (.ofString "/f") ⟨500, 50, 0o100640⟩).ending) =
        some (.ok (.entries ⟨gathered⟩)) := by
    decide +kernel
  rw [hstores] at hgathered
  obtain rfl : acl = ⟨gathered⟩ := by
    have hsame := hload.symm.trans (Option.some.inj hgathered)
    exact AclLoad.entries.inj (Except.ok.inj hsame)
  exact ⟨hasis, hcanonical, h', hstores, hload⟩

end Live

end ReadAccess
