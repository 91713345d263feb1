/-
  Whom the entries of a loaded list are about.

  A stored number is handed over as a name and turned back into a number, so it
  comes back as the number that its name leads to, and a principal without a
  name becomes the owner of the file.  Nothing else about an entry changes
  (`Live.loadAcl_loadsAs`), and nothing at all changes on a host whose tables
  are unambiguous.
-/
import ReadAccess.Live
import ReadAccess.Proofs.Naming

set_option autoImplicit false

namespace ReadAccess

open Text (RawText)

theorem Text.le_of_readNumeral {limit n : Nat} {cs : List Char}
    (h : readNumeral limit cs = .ok n) : n ≤ limit := by
  have hdigits : ∀ ds, readDigits limit 0 ds = .ok n → n ≤ limit := fun ds hds =>
    ((readDigits_eq_ok_iff (Nat.zero_le _)).mp hds).2.2
  cases cs with
  | nil => cases h
  | cons c rest =>
      simp only [readNumeral] at h
      split at h
      · split at h
        · cases h
        · exact hdigits _ h
      · exact hdigits _ h

theorem Text.decimal_ne_empty (n : Nat) : decimal n ≠ "" := by
  intro hempty
  have hdigits := congrArg String.toList hempty
  rw [decimal, String.toList_ofList] at hdigits
  exact Nat.toDigits_ne_nil hdigits

namespace Host

/-! ## From a number to a name and back -/

section Principals

variable {α : Type} {row : α → Principal} {table : List α}

theorem of_lookUpName_some {name : RawText} {a : α}
    (h : lookUpName row table name = .ok (some a)) : a ∈ table ∧ (row a).name = name := by
  rw [lookUpName] at h
  split at h
  · cases h
  · next b hfind =>
    have hrow := List.find?_some hfind
    simp only [Bool.and_eq_true, beq_iff_eq] at hrow
    split at h
    · cases h
    · obtain rfl := Option.some.inj (Except.ok.inj h)
      exact ⟨List.mem_of_find?_eq_some hfind, hrow.2⟩

/-- A name that reaches no row is the name of none, or of rows that lookups by
name pass over. -/
theorem of_lookUpName_none {name : RawText} (h : lookUpName row table name = .ok none) :
    ∀ a ∈ table, (row a).byName = true → (row a).name ≠ name := by
  rw [lookUpName] at h
  split at h
  · next hfind =>
    intro a ha hby
    have hrow := List.find?_eq_none.mp hfind a ha
    simpa [hby] using hrow
  · split at h <;> cases h

/-- A number is handed over under the name of a row that has it, or as itself in
base ten. -/
theorem of_nameOf {id : UInt32} {name : String} (h : nameOf row table id = .ok name) :
    (∃ a ∈ table, (row a).id = id ∧ name = (row a).name.shown) ∨
      name = Text.decimal id.toNat := by
  rw [nameOf, lookUpId] at h
  cases hfind : table.find? fun a => (row a).byId && (row a).id == id with
  | none =>
      rw [hfind] at h
      exact .inr (Except.ok.inj h).symm
  | some a =>
      rw [hfind] at h
      have hrow := List.find?_some hfind
      simp only [Bool.and_eq_true, beq_iff_eq] at hrow
      cases hfault : (row a).idFault with
      | some code => simp [hfault] at h
      | none =>
          simp only [hfault] at h
          exact .inl ⟨a, List.mem_of_find?_eq_some hfind, hrow.2, (Except.ok.inj h).symm⟩

variable (row table) in
/-- A name leads to the number of the first row that it reaches, and to the
number that it writes in base ten if it reaches none. -/
inductive NameLeadsTo (name : String) (id : UInt32) : Prop where
  | row (a : α) (hfound : lookUpName row table (.ofString name) = .ok (some a))
      (hid : (row a).id = id)
  | numeral (hnone : lookUpName row table (.ofString name) = .ok none)
      (hread : Text.readNumeral greatestId name.toList = .ok id.toNat)

theorem NameLeadsTo.unique {name : String} {id other : UInt32}
    (h : NameLeadsTo row table name id) (k : NameLeadsTo row table name other) : id = other := by
  cases h with
  | row a hfound hid =>
      cases k with
      | row b hfound' hid' =>
          obtain rfl := Option.some.inj (Except.ok.inj (hfound.symm.trans hfound'))
          exact hid.symm.trans hid'
      | numeral hnone _ => cases hfound.symm.trans hnone
  | numeral hnone hread =>
      cases k with
      | row a hfound _ => cases hnone.symm.trans hfound
      | numeral _ hread' => exact UInt32.toNat_inj.mp (Except.ok.inj (hread.symm.trans hread'))

variable (row table) in
/-- A number is handed over under some name and comes back as the number that
the name leads to. -/
def ComesBackAs (id other : UInt32) : Prop :=
  ∃ name, nameOf row table id = .ok name ∧ name ≠ "" ∧ NameLeadsTo row table name other

variable (row table) in
/-- The table is one in which no number can come back as another: every row is
reached by its name, which is not empty, names of different numbers differ, and
a name that writes a number is the name of that number. -/
structure Unambiguous : Prop where
  /-- Every row has a name. -/
  named : ∀ a ∈ table, ∃ name, (row a).name = .ofString name ∧ name ≠ ""
  /-- Lookups by name pass over no row. -/
  byName : ∀ a ∈ table, (row a).byName = true
  /-- Rows with one name have one number. -/
  oneNumber : ∀ a ∈ table, ∀ b ∈ table, (row a).name = (row b).name → (row a).id = (row b).id
  /-- A name that writes a number has the number. -/
  numeral : ∀ a ∈ table, ∀ id : UInt32,
    (row a).name = .ofString (Text.decimal id.toNat) → (row a).id = id

/-- A table of one row is unambiguous if the name of the row is not written in
digits alone. -/
theorem Unambiguous.singleton {a : α} {name : String} {c : Char}
    (hname : (row a).name = .ofString name) (hmem : c ∈ name.toList)
    (hletter : c.isDigit = false) (hby : (row a).byName = true) : Unambiguous row [a] where
  named b hb := by
    obtain rfl := List.mem_singleton.mp hb
    refine ⟨name, hname, ?_⟩
    rintro rfl
    cases hmem
  byName b hb := by
    obtain rfl := List.mem_singleton.mp hb
    exact hby
  oneNumber b hb d hd _ := by
    obtain rfl := List.mem_singleton.mp hb
    obtain rfl := List.mem_singleton.mp hd
    rfl
  numeral b hb id hnumeral := by
    obtain rfl := List.mem_singleton.mp hb
    obtain rfl := RawText.ofString_injective (hname.symm.trans hnumeral)
    rw [Text.decimal, String.toList_ofList] at hmem
    rw [Nat.isDigit_of_mem_toDigits (by decide) (by decide) hmem] at hletter
    cases hletter

theorem Unambiguous.name_ne_empty (h : Unambiguous row table) {id : UInt32} {name : String}
    (hname : nameOf row table id = .ok name) : name ≠ "" := by
  obtain ⟨a, ha, -, rfl⟩ | rfl := of_nameOf hname
  · obtain ⟨name, hrow, hne⟩ := h.named a ha
    rw [hrow, RawText.shown_ofString]
    exact hne
  · exact Text.decimal_ne_empty _

/-- In an unambiguous table every number comes back as itself. -/
theorem Unambiguous.eq_of_comesBackAs (h : Unambiguous row table) {id other : UInt32}
    (hback : ComesBackAs row table id other) : other = id := by
  obtain ⟨name, hname, -, hleads⟩ := hback
  -- The name is that of a row with the number, or the number in base ten.
  obtain ⟨a, ha, haid, rfl⟩ | rfl := of_nameOf hname
  · obtain ⟨name, haname, -⟩ := h.named a ha
    rw [haname, RawText.shown_ofString] at hleads
    cases hleads with
    | row b hfound hother =>
        obtain ⟨hb, hbname⟩ := of_lookUpName_some hfound
        have hsame := h.oneNumber b hb a ha (hbname.trans haname.symm)
        exact hother.symm.trans (hsame.trans haid)
    | numeral hnone _ =>
        exact absurd haname (of_lookUpName_none hnone a ha (h.byName a ha))
  · cases hleads with
    | row b hfound hother =>
        obtain ⟨hb, hbname⟩ := of_lookUpName_some hfound
        exact hother.symm.trans (h.numeral b hb id hbname)
    | numeral _ hread =>
        have hself := Text.readNumeral_decimal (Nat.le_of_lt_succ id.toNat_lt)
        exact UInt32.toNat_inj.mp (Except.ok.inj (hread.symm.trans hself))

end Principals

/-! ## Tags -/

open Acl (Tag Entry)

variable {h : Host}

/-- A stored tag is loaded as another.  One user comes back as one user and one
group as one group, except that either becomes the owner or the owning group if
the name it is handed over under is empty. -/
inductive Retagged (h : Host) : Tag → Tag → Prop where
  | owner : Retagged h .owner .owner
  | user {uid other : Uid} (hback : ComesBackAs Account.toPrincipal h.users uid other) :
      Retagged h (.user uid) (.user other)
  | blankUser {uid : Uid} (hname : nameOf Account.toPrincipal h.users uid = .ok "") :
      Retagged h (.user uid) .owner
  | owningGroup : Retagged h .owningGroup .owningGroup
  | group {gid other : Gid} (hback : ComesBackAs id h.groups gid other) :
      Retagged h (.group gid) (.group other)
  | blankGroup {gid : Gid} (hname : nameOf id h.groups gid = .ok "") :
      Retagged h (.group gid) .owningGroup
  | mask : Retagged h .mask .mask
  | other : Retagged h .other .other

theorem ComesBackAs.unique {α : Type} {row : α → Principal} {table : List α}
    {id other another : UInt32} (h : ComesBackAs row table id other)
    (k : ComesBackAs row table id another) : other = another := by
  obtain ⟨name, hname, -, hleads⟩ := h
  obtain ⟨name', hname', -, hleads'⟩ := k
  obtain rfl := Except.ok.inj (hname.symm.trans hname')
  exact hleads.unique hleads'

theorem ComesBackAs.not_blank {α : Type} {row : α → Principal} {table : List α}
    {id other : UInt32} (h : ComesBackAs row table id other) :
    nameOf row table id ≠ .ok "" := by
  obtain ⟨name, hname, hne, -⟩ := h
  rw [hname]
  exact fun hblank => hne (Except.ok.inj hblank)

theorem Retagged.unique {tag loaded loaded' : Tag} (h₁ : h.Retagged tag loaded)
    (h₂ : h.Retagged tag loaded') : loaded = loaded' := by
  cases h₁ with
  | user hback =>
      cases h₂ with
      | user hback' => rw [hback.unique hback']
      | blankUser hname => exact absurd hname hback.not_blank
  | blankUser hname =>
      cases h₂ with
      | user hback => exact absurd hname hback.not_blank
      | blankUser _ => rfl
  | group hback =>
      cases h₂ with
      | group hback' => rw [hback.unique hback']
      | blankGroup hname => exact absurd hname hback.not_blank
  | blankGroup hname =>
      cases h₂ with
      | group hback => exact absurd hname hback.not_blank
      | blankGroup _ => rfl
  | owner | owningGroup | mask | other =>
      cases h₂
      rfl

theorem Retagged.eq_of_unambiguous {tag loaded : Tag} (htag : h.Retagged tag loaded)
    (husers : Unambiguous Account.toPrincipal h.users) (hgroups : Unambiguous id h.groups) :
    loaded = tag := by
  cases htag with
  | user hback => rw [husers.eq_of_comesBackAs hback]
  | blankUser hname => exact absurd rfl (husers.name_ne_empty hname)
  | group hback => rw [hgroups.eq_of_comesBackAs hback]
  | blankGroup hname => exact absurd rfl (hgroups.name_ne_empty hname)
  | owner | owningGroup | mask | other => rfl

/-- A stored entry is loaded as another: with its tag retagged, and without the
bits that grant nothing. -/
def LoadsAs (h : Host) (e loaded : Entry) : Prop :=
  h.Retagged e.tag loaded.tag ∧ loaded.permission = e.permission.cut

theorem LoadsAs.rightUnique : Relator.RightUnique h.LoadsAs := by
  rintro e ⟨tag, permission⟩ ⟨tag', permission'⟩ ⟨htag, hpermission⟩ ⟨htag', hpermission'⟩
  obtain rfl : tag = tag' := htag.unique htag'
  obtain rfl : permission = permission' := hpermission.trans hpermission'.symm
  rfl

/-- The entry itself, without the bits that grant nothing. -/
def kept (e : Entry) : Entry := ⟨e.tag, e.permission.cut⟩

/-- Stored entries are loaded as themselves exactly if each of their tags is. -/
theorem eq_map_kept_iff {stored loaded : List Entry}
    (hloads : List.Forall₂ h.LoadsAs stored loaded) :
    loaded = stored.map kept ↔ ∀ e ∈ stored, h.Retagged e.tag e.tag := by
  have hkept : List.Forall₂ h.LoadsAs stored (stored.map kept) ↔
      ∀ e ∈ stored, h.Retagged e.tag e.tag := by
    rw [List.forall₂_map_right_iff, List.forall₂_same]
    simp [LoadsAs, kept]
  rw [← hkept]
  constructor
  · rintro rfl
    exact hloads
  · exact fun hself => LoadsAs.rightUnique.forall₂ hloads hself

/-- On a host with unambiguous tables stored entries are loaded as
themselves. -/
theorem eq_map_kept_of_unambiguous {stored loaded : List Entry}
    (husers : Unambiguous Account.toPrincipal h.users) (hgroups : Unambiguous id h.groups)
    (hloads : List.Forall₂ h.LoadsAs stored loaded) : loaded = stored.map kept := by
  have hkept : List.Forall₂ (fun e l => kept e = l) stored loaded := by
    refine hloads.imp fun e l hload => ?_
    obtain ⟨tag, permission⟩ := l
    obtain ⟨htag, hpermission⟩ := hload
    obtain rfl : tag = e.tag := htag.eq_of_unambiguous husers hgroups
    exact congrArg (Entry.mk e.tag) hpermission.symm
  rw [← List.forall₂_map_left_iff, List.forall₂_eq_eq_eq] at hkept
  exact hkept.symm

end Host

namespace Live

open Acl (Tag Entry NamedEntry)
open Host (NameLeadsTo ComesBackAs)

variable {h : Host} {path : Path}

theorem nameLeadsTo_of_principalId {α : Type} {row : α → Host.Principal} {table : List α}
    {task : SystemTask} {defect : AclDefect} {name : String} {id : UInt32}
    (hid : principalId row (Host.lookUpName row table (.ofString name)) task defect path name =
      .ok id) : NameLeadsTo row table name id := by
  rw [principalId.eq_def] at hid
  cases hfound : Host.lookUpName row table (.ofString name) with
  | error code => rw [hfound] at hid; cases hid
  | ok found =>
      rw [hfound] at hid
      cases found with
      | some a => exact .row a hfound (Except.ok.inj hid)
      | none =>
          cases hread : Text.readNumeral greatestId name.toList with
          | error fault => simp [hread] at hid
          | ok n =>
              simp only [hread] at hid
              have hn : n < UInt32.size := Nat.lt_succ_of_le (Text.le_of_readNumeral hread)
              refine .numeral hfound (hread.trans ?_)
              rw [← Except.ok.inj hid, UInt32.toNat_ofNat_of_lt' hn]

/-- A principal that is handed over under a name is loaded as the number that it
comes back as, and one that is handed over without a name as the blank tag. -/
theorem comesBackAs_of_principalId {α : Type} {row : α → Host.Principal} {table : List α}
    {task : SystemTask} {defect : AclDefect} {name : String} {id : UInt32} {blank tag : Tag}
    {f : UInt32 → Tag} (hname : Host.nameOf row table id = .ok name)
    (htag : (if name.isEmpty then .ok blank
      else (principalId row (Host.lookUpName row table (.ofString name)) task defect path
        name).map f) = .ok tag) :
    (name = "" ∧ tag = blank) ∨ ∃ other, ComesBackAs row table id other ∧ tag = f other := by
  by_cases hblank : name = ""
  · rw [if_pos (by simpa using hblank)] at htag
    exact .inl ⟨hblank, (Except.ok.inj htag).symm⟩
  · rw [if_neg (by simpa using hblank)] at htag
    cases hid : principalId row (Host.lookUpName row table (.ofString name)) task defect path
        name with
    | error e => rw [hid] at htag; cases htag
    | ok other =>
        rw [hid] at htag
        exact .inr ⟨other, ⟨name, hname, hblank, nameLeadsTo_of_principalId hid⟩,
          (Except.ok.inj htag).symm⟩

/-- A tag that is handed over and turned back is retagged. -/
theorem retagged_of_tagOf {stored tag : Tag} {n : NamedEntry}
    (hn : h.HandedOver stored n.kind n.name) (htag : tagOf h path n = .ok tag) :
    h.Retagged stored tag := by
  obtain ⟨kind, name, permission⟩ := n
  cases hn with
  | user hname =>
      obtain ⟨rfl, rfl⟩ | ⟨other, hback, rfl⟩ := comesBackAs_of_principalId hname htag
      · exact .blankUser hname
      · exact .user hback
  | group hname =>
      obtain ⟨rfl, rfl⟩ | ⟨other, hback, rfl⟩ := comesBackAs_of_principalId hname htag
      · exact .blankGroup hname
      · exact .group hback
  | unknown raw => cases htag
  | owner | owningGroup | mask | other =>
      obtain rfl := Except.ok.inj htag
      constructor

theorem loadsAs_of_entryOf {e loaded : Entry} {n : NamedEntry} (hn : h.nameEntry e = .ok n)
    (hloaded : entryOf h path n = .ok loaded) : h.LoadsAs e loaded := by
  obtain ⟨hhanded, hpermission⟩ := Host.handedOver_of_nameEntry hn
  rw [entryOf] at hloaded
  cases htag : tagOf h path n with
  | error fault => rw [htag] at hloaded; cases hloaded
  | ok tag =>
      rw [htag] at hloaded
      obtain rfl := Except.ok.inj hloaded
      exact ⟨retagged_of_tagOf hhanded htag, congrArg Permission.cut hpermission⟩

/-- What is loaded of a list with entries follows from turning the names back that it is
handed over with. -/
theorem loadAcl_of_forall₂ {stored : List Entry} {named : List NamedEntry}
    (hpath : path.hasNul = false) (hstored : h.storedEntries path = .ok stored) (hne : stored ≠ [])
    (hnamed : List.Forall₂ (fun e n => h.nameEntry e = .ok n) stored named) (m : Metadata) :
    (loadAcl h path m).ending =
      ((named.mapM (entryOf h path)).map fun entries => AclLoad.entries ⟨entries⟩).mapError
        .error := by
  have hsome : named.isEmpty = false := by
    rw [List.isEmpty_eq_false_iff]
    rintro rfl
    exact hne (List.forall₂_nil_right_iff.mp hnamed)
  rw [loadAcl, Traced.after_ending, Host.readAcl_of_forall₂ hpath hstored hnamed, loadOf, hsome]
  cases named.mapM (entryOf h path) <;> rfl

/-- A list with entries that is loaded was read, handed over and turned back. -/
theorem forall₂_of_loadAcl {m : Metadata} {stored : List Entry} {acl : Acl}
    (hstored : h.storedEntries path = .ok stored) (hne : stored ≠ [])
    (hload : (loadAcl h path m).ending = .ok (.entries acl)) :
    List.Forall₂ h.LoadsAs stored acl.entries := by
  -- With a NUL byte in the path, or a number whose lookup fails, there are no entries.
  cases hpath : path.hasNul with
  | true => simp [loadAcl, Host.readAcl, hpath, loadOf, meansUnsupported, IoError.code?, refuse,
      Traced.fail] at hload
  | false =>
      cases hfault : h.firstNamingFault? stored with
      | some code =>
          rw [loadAcl, Traced.after_ending, Host.readAcl_of_unnamed hpath hstored hfault,
            loadOf] at hload
          split at hload <;> cases hload
      | none =>
          obtain ⟨named, -, hnamed⟩ := Host.readAcl_of_named hpath hstored hfault
          rw [loadAcl_of_forall₂ hpath hstored hne hnamed] at hload
          cases hentries : named.mapM (entryOf h path) with
          | error fault =>
              rw [hentries] at hload
              cases hload
          | ok entries =>
              rw [hentries] at hload
              cases hload
              refine (forall₂_comp hnamed (mapM_eq_ok_iff.mp hentries)).imp ?_
              rintro e loaded ⟨n, hn, hloaded⟩
              exact loadsAs_of_entryOf hn hloaded

/-- **A loaded entry is about whom the name of its principal leads to.**  A load
keeps the number and the order of the entries, and what each of them grants.
All of them come back unchanged exactly if each number comes back as itself,
which is so on a host with unambiguous tables. -/
theorem loadAcl_loadsAs {m : Metadata} {stored : List Entry} {acl : Acl}
    (hstored : h.storedEntries path = .ok stored) (hne : stored ≠ [])
    (hload : (loadAcl h path m).ending = .ok (.entries acl)) :
    List.Forall₂ h.LoadsAs stored acl.entries ∧
      (acl.entries = stored.map Host.kept ↔ ∀ e ∈ stored, h.Retagged e.tag e.tag) ∧
      (Host.Unambiguous Host.Account.toPrincipal h.users → Host.Unambiguous id h.groups →
        acl.entries = stored.map Host.kept) := by
  have hloads := forall₂_of_loadAcl hstored hne hload
  exact ⟨hloads, Host.eq_map_kept_iff hloads, fun husers hgroups =>
    Host.eq_map_kept_of_unambiguous husers hgroups hloads⟩

/-- A list about one user and one group by number. -/
def sharedList : List Entry :=
  [⟨.owner, ⟨6⟩⟩, ⟨.user 7, ⟨4⟩⟩, ⟨.owningGroup, ⟨4⟩⟩, ⟨.group 42, ⟨5⟩⟩, ⟨.mask, ⟨4⟩⟩,
    ⟨.other, ⟨0⟩⟩]

/-- A host that knows this user and this group by one name each. -/
def distinctNames : Host where
  users := [⟨⟨.ofString "eve", 7, none, none, true, true⟩, 100, []⟩]
  groups := [⟨.ofString "staff", 42, none, none, true, true⟩]
  files := [⟨.ofString "/f", 500, 50, 0o100640, none, .entries sharedList, none⟩]
  habit := .plain
  currentUid := 0

/-- The list of the user and the group with one name each is loaded as it is. -/
theorem loadAcl_loadsAs_distinctNames :
    distinctNames.storedEntries (.ofString "/f") = .ok sharedList ∧ sharedList ≠ [] ∧
      Host.Unambiguous Host.Account.toPrincipal distinctNames.users ∧
      Host.Unambiguous id distinctNames.groups ∧
      (loadAcl distinctNames (.ofString "/f") ⟨500, 50, 0o100640⟩).ending =
        .ok (.entries ⟨sharedList⟩) ∧
      sharedList = sharedList.map Host.kept := by
  have hstored : distinctNames.storedEntries (.ofString "/f") = .ok sharedList := by
    decide +kernel
  have hne : sharedList ≠ [] := List.cons_ne_nil _ _
  have husers : Host.Unambiguous Host.Account.toPrincipal distinctNames.users :=
    .singleton (c := 'e') rfl (by decide) rfl rfl
  have hgroups : Host.Unambiguous id distinctNames.groups :=
    .singleton (c := 's') rfl (by decide) rfl rfl
  have hload : (loadAcl distinctNames (.ofString "/f") ⟨500, 50, 0o100640⟩).ending =
      .ok (.entries ⟨sharedList⟩) := by
    decide +kernel
  obtain ⟨-, -, hkept⟩ := loadAcl_loadsAs hstored hne hload
  exact ⟨hstored, hne, husers, hgroups, hload, hkept husers hgroups⟩

/-- A list about three users by number. -/
def namesakeList : List Entry :=
  [⟨.owner, ⟨0⟩⟩, ⟨.user 502, ⟨4⟩⟩, ⟨.user 503, ⟨4⟩⟩, ⟨.user 505, ⟨4⟩⟩, ⟨.owningGroup, ⟨0⟩⟩,
    ⟨.mask, ⟨4⟩⟩, ⟨.other, ⟨0⟩⟩]

/-- A host on which the first of these users shares a name, the number of the
second is the name of somebody else, and the third has the empty name. -/
def namesakes : Host where
  users := [
    ⟨⟨.ofString "alice", 501, none, none, true, true⟩, 100, []⟩,
    ⟨⟨.ofString "alice", 502, none, none, true, true⟩, 100, []⟩,
    ⟨⟨.ofString "503", 504, none, none, true, true⟩, 100, []⟩,
    ⟨⟨.ofString "", 505, none, none, true, true⟩, 100, []⟩]
  groups := []
  files := [⟨.ofString "/f", 500, 50, 0o100060, none, .entries namesakeList, none⟩]
  habit := .plain
  currentUid := 0

/-- The loaded list is about other users than the stored one, and one of its
entries is about the owner of the file. -/
theorem loadAcl_namesakes_reattributes :
    namesakes.storedEntries (.ofString "/f") = .ok namesakeList ∧
      (loadAcl namesakes (.ofString "/f") ⟨500, 50, 0o100060⟩).ending =
        .ok (.entries
          ⟨[⟨.owner, ⟨0⟩⟩, ⟨.user 501, ⟨4⟩⟩, ⟨.user 504, ⟨4⟩⟩, ⟨.owner, ⟨4⟩⟩, ⟨.owningGroup, ⟨0⟩⟩,
            ⟨.mask, ⟨4⟩⟩, ⟨.other, ⟨0⟩⟩]⟩) := by
  constructor <;> decide +kernel

end Live

end ReadAccess
