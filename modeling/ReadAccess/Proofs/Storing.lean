/-
  What writing a list of entries does.

  Entries are handed over by class and stored by class and number.  The order in which
  entries with different tags are stored is therefore theirs alone, and nothing is left of
  the order in which they were given (`Acl.storedOrder_eq_of_perm`).  A draft is written
  exactly if the file can be written and the host takes all entries
  (`Host.storeAcl_eq_ok_iff`).
-/
import Mathlib.Data.List.Nodup
import Mathlib.Data.List.Perm.Basic
import Mathlib.Data.List.Sort
import ReadAccess.Proofs.Attribution

set_option autoImplicit false

namespace ReadAccess

namespace Acl

/-! ## Sorting -/

theorem insertBy_eq_orderedInsert {α : Type} (le : α → α → Bool) (x : α) (xs : List α) :
    insertBy le x xs = xs.orderedInsert (fun a b => le a b = true) x := by
  induction xs with
  | nil => rfl
  | cons y rest ih => rw [insertBy, List.orderedInsert_cons, ih]

theorem sortBy_eq_insertionSort {α : Type} (le : α → α → Bool) (xs : List α) :
    sortBy le xs = xs.insertionSort fun a b => le a b = true := by
  induction xs with
  | nil => rfl
  | cons x rest ih =>
      rw [List.insertionSort_cons, ← ih, ← insertBy_eq_orderedInsert]
      rfl

/-! ## The order in which entries are stored -/

namespace Entry

/-- An entry comes before another where entries are stored: its class does, or it is about
a lesser number of the same class. -/
def ComesBefore (a b : Entry) : Prop :=
  a.tag.storedRank < b.tag.storedRank ∨
    (a.tag.storedRank = b.tag.storedRank ∧ a.tag.number < b.tag.number)

variable {a b c : Entry}

theorem storesBefore_iff :
    a.storesBefore b = true ↔
      a.tag.storedRank < b.tag.storedRank ∨
        (a.tag.storedRank = b.tag.storedRank ∧ a.tag.number ≤ b.tag.number) := by
  simp [storesBefore]

instance : Std.Total fun a b : Entry => a.storesBefore b = true where
  total a b := by
    simp only [storesBefore_iff]
    omega

instance : IsTrans Entry fun a b => a.storesBefore b = true where
  trans a b c := by
    simp only [storesBefore_iff]
    omega

end Entry

/-- Class and number tell tags with a meaning apart. -/
theorem Tag.eq_of_storedRank_eq {s t : Tag} (hs : s.isKnown = true) (ht : t.isKnown = true)
    (hrank : s.storedRank = t.storedRank) (hnumber : s.number = t.number) : s = t := by
  cases s <;> cases t <;> simp_all [storedRank, number, isKnown, ← UInt32.toNat_inj]

theorem Tag.isKnown_iff_storedRank {tag : Tag} : tag.isKnown = true ↔ tag.storedRank ≠ 0 := by
  cases tag <;> simp [isKnown, storedRank]

section StoredOrder

variable {entries others : List Entry}

theorem handingOrder_perm (entries : List Entry) : (handingOrder entries).Perm entries := by
  rw [handingOrder, sortBy_eq_insertionSort]
  exact List.perm_insertionSort _ entries

theorem storedOrder_perm (entries : List Entry) : (storedOrder entries).Perm entries := by
  rw [storedOrder, sortBy_eq_insertionSort]
  exact List.perm_insertionSort _ entries

theorem storedOrder_pairwise (entries : List Entry) :
    (storedOrder entries).Pairwise fun a b => a.storesBefore b = true := by
  rw [storedOrder, sortBy_eq_insertionSort]
  exact List.pairwise_insertionSort _ entries

/-- What is in order stays in order. -/
theorem storedOrder_storedOrder (entries : List Entry) :
    storedOrder (storedOrder entries) = storedOrder entries := by
  have hsorted := storedOrder_pairwise entries
  rw [storedOrder, sortBy_eq_insertionSort]
  exact hsorted.insertionSort_eq

/-- Entries with different tags that have a meaning: no order is left open. -/
structure Distinct (entries : List Entry) : Prop where
  known : ∀ e ∈ entries, e.tag.isKnown = true
  tags : (entries.map Entry.tag).Nodup

theorem Distinct.perm (h : Distinct entries) (hperm : entries.Perm others) : Distinct others :=
  ⟨fun e he => h.known e (hperm.mem_iff.mpr he), (hperm.map Entry.tag).nodup_iff.mp h.tags⟩

/-- Entries that may be stored before each other are one. -/
theorem Distinct.eq_of_storesBefore (h : Distinct entries) {a b : Entry} (ha : a ∈ entries)
    (hb : b ∈ entries) (hab : a.storesBefore b = true) (hba : b.storesBefore a = true) :
    a = b := by
  rw [Entry.storesBefore_iff] at hab hba
  have htag : a.tag = b.tag :=
    Tag.eq_of_storedRank_eq (h.known a ha) (h.known b hb) (by omega) (by omega)
  exact List.inj_on_of_nodup_map h.tags ha hb htag

/-- The order in which entries are given does not matter for the order in which they are
stored. -/
theorem storedOrder_eq_of_perm (h : Distinct entries) (hperm : entries.Perm others) :
    storedOrder entries = storedOrder others := by
  have hsame : (storedOrder entries).Perm (storedOrder others) :=
    (storedOrder_perm entries).trans (hperm.trans (storedOrder_perm others).symm)
  refine hsame.eq_of_pairwise ?_ (storedOrder_pairwise entries) (storedOrder_pairwise others)
  intro a b ha hb
  have ha := (storedOrder_perm entries).mem_iff.mp ha
  have hb := hperm.mem_iff.mpr ((storedOrder_perm others).mem_iff.mp hb)
  exact h.eq_of_storesBefore ha hb

/-- Entries with different tags are stored one strictly before the other. -/
theorem storedOrder_comesBefore (h : Distinct entries) :
    (storedOrder entries).Pairwise Entry.ComesBefore := by
  have hdistinct := h.perm (storedOrder_perm entries).symm
  have hne := List.pairwise_map.mp hdistinct.tags
  refine ((storedOrder_pairwise entries).and hne).imp_of_mem ?_
  rintro a b ha hb ⟨hle, htags⟩
  rw [Entry.storesBefore_iff] at hle
  have hplaces : ¬ (a.tag.storedRank = b.tag.storedRank ∧ a.tag.number = b.tag.number) :=
    fun hsame => htags
      (Tag.eq_of_storedRank_eq (hdistinct.known a ha) (hdistinct.known b hb) hsame.1 hsame.2)
  unfold Entry.ComesBefore
  omega

end StoredOrder

end Acl

namespace Host

open Acl (Draft Entry Tag)

variable {h h' : Host} {path : Path} {entries collected : List Entry}

/-! ## Entries that are collected -/

/-- What is stored for an entry is of the same class. -/
theorem storedRank_of_storedEntry {e s : Entry} (hs : h.storedEntry e = .ok s) :
    s.tag.storedRank = e.tag.storedRank := by
  obtain ⟨tag, permission⟩ := e
  cases tag with
  | user uid =>
      obtain ⟨other, -, rfl⟩ := map_eq_ok_iff.mp hs
      rfl
  | group gid =>
      obtain ⟨other, -, rfl⟩ := map_eq_ok_iff.mp hs
      rfl
  | owner | owningGroup | mask | other | unknown =>
      obtain rfl := Except.ok.inj hs
      rfl

theorem nodup_tags_concat_iff {e : Entry} :
    ((entries ++ [e]).map Entry.tag).Nodup ↔
      e.tag ∉ entries.map Entry.tag ∧ (entries.map Entry.tag).Nodup := by
  rw [List.map_append, List.map_singleton, List.nodup_append_comm, List.singleton_append,
    List.nodup_cons]

/-- The next entry is collected if it is stored under a tag that is not there already. -/
theorem collectEntries_cons_eq_ok_iff {index : Nat} {done rest : List Entry} {e : Entry} :
    h.collectEntries index done (e :: rest) = .ok collected ↔
      ∃ s, h.storedEntry e = .ok s ∧ s.tag ∉ done.map Entry.tag ∧
        h.collectEntries (index + 1) (done ++ [s]) rest = .ok collected := by
  rw [collectEntries]
  cases h.storedEntry e with
  | error code => simp
  | ok s =>
      have htaken : (done.any fun d => d.tag == s.tag) = true ↔ s.tag ∈ done.map Entry.tag := by
        simp
      simp only [htaken, Except.ok.injEq, exists_eq_left']
      split
      · next hmem =>
        constructor
        · intro hcollected
          cases hcollected
        · intro hfree
          exact absurd hmem hfree.1
      · next hfree => exact (and_iff_right hfree).symm

/-- Entries are collected exactly if each of them is stored, and no two under one tag.  By
induction on the entries, over those that are there already. -/
theorem collectEntries_eq_ok_iff {index : Nat} {done : List Entry}
    (hdone : (done.map Entry.tag).Nodup) :
    h.collectEntries index done entries = .ok collected ↔
      ∃ stored, List.Forall₂ (fun e s => h.storedEntry e = .ok s) entries stored ∧
        collected = done ++ stored ∧ (collected.map Entry.tag).Nodup := by
  induction entries generalizing index done with
  | nil =>
      constructor
      · intro hcollected
        obtain rfl := Except.ok.inj hcollected
        exact ⟨[], .nil, (List.append_nil _).symm, hdone⟩
      · rintro ⟨stored, hstored, rfl, -⟩
        cases hstored
        rw [List.append_nil]
        rfl
  | cons e rest ih =>
      rw [collectEntries_cons_eq_ok_iff]
      constructor
      · rintro ⟨s, hs, hfree, hrest⟩
        have hfirst := nodup_tags_concat_iff.mpr ⟨hfree, hdone⟩
        obtain ⟨tail, htail, rfl, hnodup⟩ := (ih hfirst).mp hrest
        exact ⟨s :: tail, .cons hs htail, (List.append_cons done s tail).symm, hnodup⟩
      · rintro ⟨stored, hstored, rfl, hnodup⟩
        obtain ⟨s, tail, hs, htail, rfl⟩ := List.forall₂_cons_left_iff.mp hstored
        have hsplit := List.append_cons done s tail
        have hfirst : ((done ++ [s]).map Entry.tag).Nodup := by
          rw [hsplit, List.map_append] at hnodup
          exact hnodup.of_append_left
        have hfree := (nodup_tags_concat_iff.mp hfirst).1
        exact ⟨s, hs, hfree, (ih hfirst).mpr ⟨tail, htail, hsplit, hnodup⟩⟩

/-! ## Valid lists -/

/-- The tags that every list has. -/
def requiredTags : List Tag := [.owner, .owningGroup, .other]

theorem unstorable?_eq_none_iff :
    unstorable? entries = none ↔ ∀ e ∈ entries, e.tag.isKnown = true := by
  rw [unstorable?, List.findSome?_eq_none_iff]
  refine forall₂_congr fun e _ => ?_
  cases e.tag <;> simp [Tag.isKnown]

theorem missingTag?_eq_none_iff :
    missingTag? entries = none ↔ ∀ tag ∈ requiredTags, ∃ e ∈ entries, e.tag = tag := by
  rw [missingTag?, List.find?_eq_none]
  simp [requiredTags]

theorem invalid?_eq_none_iff :
    invalid? entries = none ↔ ∀ tag ∈ requiredTags, ∃ e ∈ entries, e.tag = tag := by
  rw [← missingTag?_eq_none_iff]
  cases entries with
  | nil => simp [invalid?, missingTag?]
  | cons e rest => simp [invalid?]

/-- The host takes entries as others: each of them has a meaning and is stored as one of
the others, no two of which have one tag, and the tags that every list has are there. -/
structure Takes (h : Host) (given taken : List Entry) : Prop where
  known : ∀ e ∈ given, e.tag.isKnown = true
  stores : List.Forall₂ (fun e s => h.storedEntry e = .ok s) given taken
  distinct : (taken.map Entry.tag).Nodup
  required : ∀ tag ∈ requiredTags, ∃ s ∈ taken, s.tag = tag

namespace Takes

variable {given others taken : List Entry}

/-- Entries that are stored have a meaning. -/
theorem distinct_taken (htakes : h.Takes given taken) : Acl.Distinct taken := by
  refine ⟨?_, htakes.distinct⟩
  intro s hs
  obtain ⟨e, he, hstores⟩ := exists_of_mem_right htakes.stores hs
  rw [Tag.isKnown_iff_storedRank, storedRank_of_storedEntry hstores, ← Tag.isKnown_iff_storedRank]
  exact htakes.known e he

/-- In another order, entries are taken as the same ones in another order. -/
theorem perm (htakes : h.Takes given taken) (hperm : others.Perm given) :
    ∃ taken', taken'.Perm taken ∧ h.Takes others taken' := by
  obtain ⟨taken', hstores', hsame⟩ := List.perm_comp_forall₂ hperm htakes.stores
  refine ⟨taken', hsame, ?_, hstores', ?_, ?_⟩
  · intro e he
    exact htakes.known e (hperm.mem_iff.mp he)
  · exact (hsame.map Entry.tag).nodup_iff.mpr htakes.distinct
  · intro tag htag
    obtain ⟨s, hs, hstag⟩ := htakes.required tag htag
    exact ⟨s, hsame.mem_iff.mpr hs, hstag⟩

end Takes

/-! ## Masks -/

/-- Entries about single users or groups have no mask that bounds them. -/
def NeedsMask (entries : List Entry) : Prop :=
  (∃ e ∈ entries, isNamed e = true) ∧ ∀ e ∈ entries, e.tag ≠ .mask

theorem needsMask_iff :
    (entries.any isNamed && !(entries.any fun e => e.tag == .mask)) = true ↔
      NeedsMask entries := by
  simp [NeedsMask]

theorem withMask_of_needsMask (hneeds : NeedsMask entries) :
    withMask entries = entries ++ [⟨.mask, maskedUnion entries⟩] :=
  if_pos (needsMask_iff.mpr hneeds)

theorem withMask_of_not_needsMask (hneeds : ¬ NeedsMask entries) : withMask entries = entries :=
  if_neg fun h => hneeds (needsMask_iff.mp h)

theorem mem_withMask_of_mem {e : Entry} (he : e ∈ entries) : e ∈ withMask entries := by
  unfold withMask
  split
  · exact List.mem_append_left _ he
  · exact he

theorem eq_or_mem_of_mem_withMask {e : Entry} (he : e ∈ withMask entries) :
    e = ⟨.mask, maskedUnion entries⟩ ∨ e ∈ entries := by
  unfold withMask at he
  split at he
  · rw [List.mem_append, List.mem_singleton] at he
    exact he.symm
  · exact .inr he

/-- The order of entries does not matter for what they grant together. -/
theorem maskedUnion_perm {others : List Entry} (hperm : entries.Perm others) :
    maskedUnion entries = maskedUnion others := by
  refine (hperm.filter isMasked).foldl_eq' ?_ Permission.nothing
  intro a _ b _ p
  refine congrArg Permission.mk ?_
  show p.bits ||| a.permission.bits ||| b.permission.bits =
    p.bits ||| b.permission.bits ||| a.permission.bits
  rw [UInt16.or_assoc, UInt16.or_assoc, UInt16.or_comm b.permission.bits]

theorem withMask_perm {others : List Entry} (hperm : entries.Perm others) :
    (withMask entries).Perm (withMask others) := by
  unfold withMask
  rw [hperm.any_eq, hperm.any_eq, maskedUnion_perm hperm]
  split
  · exact hperm.append_right _
  · exact hperm

theorem withMask_distinct (hdistinct : Acl.Distinct entries) :
    Acl.Distinct (withMask entries) := by
  refine ⟨?_, ?_⟩
  · intro e he
    obtain rfl | he := eq_or_mem_of_mem_withMask he
    · rfl
    · exact hdistinct.known e he
  · by_cases hneeds : NeedsMask entries
    · have hfresh : Tag.mask ∉ entries.map Entry.tag := by
        intro hmask
        obtain ⟨e, he, htag⟩ := List.mem_map.mp hmask
        exact hneeds.2 e he htag
      rw [withMask_of_needsMask hneeds, nodup_tags_concat_iff]
      exact ⟨hfresh, hdistinct.tags⟩
    · rw [withMask_of_not_needsMask hneeds]
      exact hdistinct.tags

/-! ## Files -/

/-- The list of a file at the path can be written. -/
def Writable (h : Host) (path : Path) : Prop :=
  path.hasNul = false ∧ ∃ f, h.fileAt? path = some f ∧ f.storeFault = none

/-- The host with these entries as the list of the file at a path. -/
def withList (h : Host) (path : Path) (entries : List Entry) : Host :=
  { h with files := replaceAcl path (.entries entries) h.files }

theorem run_writeEntries_of_writable (hwritable : h.Writable path) (entries : List Entry) :
    (writeEntries path entries).run h =
      .ok () (h.withList path (Acl.storedOrder (withMask entries))) := by
  obtain ⟨hpath, f, hfile, hfault⟩ := hwritable
  simp [writeEntries, hpath, hfile, hfault, withList]

/-- Entries for a file that cannot be written leave the host as it was. -/
theorem run_writeEntries_of_not_writable (hwritable : ¬ h.Writable path) (entries : List Entry) :
    ∃ e, (writeEntries path entries).run h = .error e h := by
  rw [writeEntries]
  cases hpath : path.hasNul with
  | true => exact ⟨_, rfl⟩
  | false =>
      cases hfile : h.fileAt? path with
      | none => exact ⟨.onFile path .noEntry, by simp [hfile]⟩
      | some f =>
          cases hfault : f.storeFault with
          | some code => exact ⟨.onFile path code, by simp [hfile, hfault]⟩
          | none => exact absurd ⟨hpath, f, hfile, hfault⟩ hwritable

theorem takes_iff {given taken : List Entry} :
    h.Takes given taken ↔
      unstorable? given = none ∧ h.collectEntries 0 [] given = .ok taken ∧
        invalid? taken = none := by
  have hdone : (([] : List Entry).map Entry.tag).Nodup := List.nodup_nil
  rw [unstorable?_eq_none_iff, invalid?_eq_none_iff, collectEntries_eq_ok_iff hdone]
  constructor
  · rintro ⟨hknown, hstores, hdistinct, hrequired⟩
    exact ⟨hknown, ⟨taken, hstores, rfl, hdistinct⟩, hrequired⟩
  · rintro ⟨hknown, ⟨taken', hstores, rfl, hdistinct⟩, hrequired⟩
    exact ⟨hknown, hstores, hdistinct, hrequired⟩

theorem run_writeDraft_of_takes {draft : Draft} {taken : List Entry}
    (hwritable : h.Writable path) (htakes : h.Takes draft.entries taken) :
    (writeDraft path draft).run h =
      .ok () (h.withList path (Acl.storedOrder (withMask taken))) := by
  obtain ⟨taken', hsame, htakes'⟩ := htakes.perm (Acl.handingOrder_perm draft.entries)
  obtain ⟨hstorable, hcollect, hvalid⟩ := takes_iff.mp htakes'
  have horder : Acl.storedOrder (withMask taken') = Acl.storedOrder (withMask taken) :=
    (Acl.storedOrder_eq_of_perm (withMask_distinct htakes.distinct_taken)
      (withMask_perm hsame.symm)).symm
  rw [← horder, ← run_writeEntries_of_writable hwritable taken']
  simp [writeDraft, hstorable, hcollect, hvalid]

/-- **An attempt that fails leaves the host as it was**, at whatever step it fails. -/
theorem run_writeDraft_of_refused {draft : Draft}
    (hrefused : ¬ (h.Writable path ∧ ∃ taken, h.Takes draft.entries taken)) :
    ∃ e, (writeDraft path draft).run h = .error e h := by
  rw [writeDraft]
  cases hstorable : unstorable? (Acl.handingOrder draft.entries) with
  | some raw => exact ⟨_, rfl⟩
  | none =>
      cases hcollect : h.collectEntries 0 [] (Acl.handingOrder draft.entries) with
      | error reason => exact ⟨.invalidAcl reason, by simp [hcollect]⟩
      | ok collected =>
          cases hvalid : invalid? collected with
          | some reason => exact ⟨.invalidAcl reason, by simp [hcollect, hvalid]⟩
          | none =>
              -- The host takes all entries, so it must be the file that cannot be written.
              have htakes : h.Takes (Acl.handingOrder draft.entries) collected :=
                takes_iff.mpr ⟨hstorable, hcollect, hvalid⟩
              obtain ⟨taken, -, htakes'⟩ := htakes.perm (Acl.handingOrder_perm _).symm
              have hwritable : ¬ h.Writable path := fun hw => hrefused ⟨hw, taken, htakes'⟩
              obtain ⟨e, hfails⟩ := run_writeEntries_of_not_writable hwritable collected
              exact ⟨e, by simpa [hcollect, hvalid] using hfails⟩

/-- **A draft is written exactly if the file can be written and the host takes all
entries.**  What is stored are the taken entries with their mask, in stored order. -/
theorem storeAcl_eq_ok_iff {draft : Draft} :
    h.storeAcl path draft = .ok h' ↔
      h.Writable path ∧ ∃ taken, h.Takes draft.entries taken ∧
        h' = h.withList path (Acl.storedOrder (withMask taken)) := by
  constructor
  · intro hstores
    by_cases haccepted : h.Writable path ∧ ∃ taken, h.Takes draft.entries taken
    · obtain ⟨hwritable, taken, htakes⟩ := haccepted
      rw [storeAcl, run_writeDraft_of_takes hwritable htakes] at hstores
      exact ⟨hwritable, taken, htakes, (Except.ok.inj hstores).symm⟩
    · obtain ⟨e, hfails⟩ := run_writeDraft_of_refused haccepted
      rw [storeAcl, hfails] at hstores
      cases hstores
  · rintro ⟨hwritable, taken, htakes, rfl⟩
    rw [storeAcl, run_writeDraft_of_takes hwritable htakes]

/-- The order in which entries were added to a draft does not matter. -/
theorem storeAcl_perm {draft other : Draft} (hperm : draft.entries.Perm other.entries) :
    h.storeAcl path draft = .ok h' ↔ h.storeAcl path other = .ok h' := by
  have himp : ∀ {draft other : Draft}, draft.entries.Perm other.entries →
      h.storeAcl path draft = .ok h' → h.storeAcl path other = .ok h' := by
    intro draft other hperm hstores
    obtain ⟨hwritable, taken, htakes, rfl⟩ := storeAcl_eq_ok_iff.mp hstores
    obtain ⟨taken', hsame, htakes'⟩ := htakes.perm hperm.symm
    have hdistinct := withMask_distinct htakes.distinct_taken
    refine storeAcl_eq_ok_iff.mpr ⟨hwritable, taken', htakes', ?_⟩
    rw [Acl.storedOrder_eq_of_perm hdistinct (withMask_perm hsame.symm)]
  exact ⟨himp hperm, himp hperm.symm⟩

/-! ## The host afterwards -/

/-- The first file at a path gets the list, and no other file does. -/
theorem find?_replaceAcl (acl : StoredAcl) (place : Path) (files : List File) :
    ((replaceAcl path acl files).find? fun f => f.path == place) =
      if place = path then (files.find? fun f => f.path == path).map fun f => { f with acl }
      else files.find? fun f => f.path == place := by
  induction files with
  | nil => simp [replaceAcl]
  | cons f rest ih =>
      rw [replaceAcl]
      by_cases hpath : f.path = path
      · rw [if_pos (beq_iff_eq.mpr hpath)]
        by_cases hplace : place = path
        · simp [hpath, hplace]
        · have hother : ¬ path = place := fun h => hplace h.symm
          simp [hpath, hplace, hother]
      · rw [if_neg (by simpa using hpath)]
        by_cases hplace : place = path
        · simp only [List.find?_cons, hplace, beq_eq_false_iff_ne.mpr hpath, if_pos] at ih ⊢
          exact ih
        · simp only [List.find?_cons, ih, if_neg hplace]

theorem fileAt?_withList (place : Path) :
    (h.withList path entries).fileAt? place =
      if place = path then (h.fileAt? path).map fun f => { f with acl := .entries entries }
      else h.fileAt? place :=
  find?_replaceAcl (.entries entries) place h.files

/-- A draft that is not written is not written in part either. -/
theorem attempted_of_error {draft : Draft} {e : IoError}
    (hfails : h.storeAcl path draft = .error e) : h.attempted path draft = h := by
  by_cases haccepted : h.Writable path ∧ ∃ taken, h.Takes draft.entries taken
  · obtain ⟨hwritable, taken, htakes⟩ := haccepted
    rw [storeAcl, run_writeDraft_of_takes hwritable htakes] at hfails
    cases hfails
  · obtain ⟨e', hrefused⟩ := run_writeDraft_of_refused haccepted
    rw [attempted, hrefused]

theorem attempted_of_ok {draft : Draft} (hstores : h.storeAcl path draft = .ok h') :
    h.attempted path draft = h' := by
  rw [storeAcl] at hstores
  rw [attempted]
  split at hstores
  · exact Except.ok.inj hstores
  · cases hstores

end Host
end ReadAccess
