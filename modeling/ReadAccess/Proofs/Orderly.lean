/-
  Hosts on which nothing fails.

  On such a host every user with a row is found and is in the groups of the row
  (`Live.resolveUser_of_found`, `Live.resolveGroups_of_found`), and every file is found at
  its path (`Live.probe_ending`).  A list with entries is loaded as it is kept, unless it
  holds a tag without meaning (`Live.loadAcl_of_listed`).
-/
import Mathlib.Data.List.Find
import Mathlib.Data.List.Nodup
import ReadAccess.Proofs.Enumeration
import ReadAccess.Proofs.MinimalLists
import ReadAccess.Proofs.Storing

set_option autoImplicit false

namespace ReadAccess

open Text (RawText)
open Acl (Entry Tag NamedEntry)

namespace Host

/-- Every row of the table is reached by name and by number, no lookup fails, and every
row has a name of its own that is valid, holds no NUL character and is not written in
digits alone. -/
structure Orderly {α : Type} (row : α → Principal) (table : List α) : Prop where
  /-- Lookups by name and by number reach every row. -/
  reached : ∀ a ∈ table, (row a).byName = true ∧ (row a).byId = true
  /-- No lookup fails. -/
  faultless : ∀ a ∈ table, (row a).nameFault = none ∧ (row a).idFault = none
  /-- Names are valid, without NUL characters, and not digits alone. -/
  named : ∀ a ∈ table, ∃ name : String, (row a).name = .ofString name ∧
    '\x00' ∉ name.toList ∧ ∃ c ∈ name.toList, c.isDigit = false
  /-- Names are different. -/
  names : table.Pairwise fun a b => (row a).name ≠ (row b).name

/-- Nothing fails on the host, and the host is honest about its listings. -/
structure IsOrderly (h : Host) : Prop where
  users : Orderly Account.toPrincipal h.users
  groups : Orderly id h.groups
  /-- No two files are at paths alike. -/
  places : h.files.Pairwise fun f g => ¬ f.path.Alike g.path
  /-- Owner and mode of every file can be taken. -/
  stats : ∀ f ∈ h.files, f.statFault = none
  /-- Every list can be read. -/
  lists : ∀ f ∈ h.files, ∀ code, f.acl ≠ .unreadable code
  /-- A listing that succeeds counts all memberships. -/
  honest : h.habit.IsHonest
  /-- A listing that fails reports the number of memberships, or the capacity. -/
  reports : h.habit.shortReport = .required ∨ h.habit.shortReport = .capacity

/-- The first buffer is one that the listing call accepts, and so is one with the
increment to spare for the groups of any user. -/
def LeavesRoom (h : Host) (policy : Groups.Policy) : Prop :=
  policy.initial.toNat ≤ Size.countLimit ∧
    ∀ a ∈ h.users, (a.gid :: a.groups).length + policy.increment.toNat ≤ Size.countLimit

/-! ## Lookups -/

section Principals

variable {α : Type} {row : α → Principal} {table : List α}

theorem Orderly.name_beq (horderly : Orderly row table) (name : String) :
    ∀ a ∈ table, ((row a).name == .ofString name) = (name == (row a).name.shown) := by
  intro a ha
  obtain ⟨own, hown, -, -⟩ := horderly.named a ha
  rw [hown, RawText.shown_ofString, Bool.eq_iff_iff, beq_iff_eq, beq_iff_eq]
  constructor
  · intro heq
    exact (RawText.ofString_injective heq).symm
  · rintro rfl
    rfl

theorem Orderly.lookUpName_eq (horderly : Orderly row table) (name : String) :
    lookUpName row table (.ofString name) =
      .ok (table.find? fun a => name == (row a).name.shown) := by
  have hsame : ∀ a ∈ table, ((row a).byName && (row a).name == .ofString name) =
      (name == (row a).name.shown) := by
    intro a ha
    rw [(horderly.reached a ha).1, Bool.true_and, horderly.name_beq name a ha]
  rw [lookUpName, List.find?_congr hsame]
  cases hfind : table.find? fun a => name == (row a).name.shown with
  | none => rfl
  | some a => simp only [(horderly.faultless a (List.mem_of_find?_eq_some hfind)).1]

theorem Orderly.errorOf?_lookUpId (horderly : Orderly row table) (id : UInt32) :
    errorOf? (lookUpId row table id) = none := by
  rw [lookUpId]
  cases hfind : table.find? fun a => (row a).byId && (row a).id == id with
  | none => rfl
  | some a =>
      simp only [(horderly.faultless a (List.mem_of_find?_eq_some hfind)).2]
      rfl

theorem Orderly.unambiguous (horderly : Orderly row table) : Unambiguous row table where
  named a ha := by
    obtain ⟨name, hname, -, c, hc, -⟩ := horderly.named a ha
    refine ⟨name, hname, ?_⟩
    rintro rfl
    cases hc
  byName a ha := (horderly.reached a ha).1
  oneNumber a ha b hb hname := by
    have hkeys := List.pairwise_map.mpr horderly.names
    rw [List.inj_on_of_nodup_map hkeys ha hb hname]
  numeral a ha id hname := by
    obtain ⟨name, hown, -, c, hc, hletter⟩ := horderly.named a ha
    obtain rfl := RawText.ofString_injective (hown.symm.trans hname)
    rw [Text.decimal, String.toList_ofList] at hc
    rw [Nat.isDigit_of_mem_toDigits (by decide) (by decide) hc] at hletter
    cases hletter

end Principals

/-- The user of a name, as names are shown. -/
def account? (h : Host) (user : String) : Option Account :=
  h.users.find? fun a => user == a.name.shown

theorem IsOrderly.userNamed_eq {h : Host} (horderly : h.IsOrderly) (user : String) :
    h.userNamed (.ofString user) = .ok (h.account? user) :=
  horderly.users.lookUpName_eq user

/-- The list that the host keeps for a file in stored order, if it has entries. -/
def File.listed? (f : File) : Option Acl :=
  match f.acl with
  | .entries (e :: rest) => some ⟨Acl.storedOrder (e :: rest)⟩
  | _ => none

end Host

/-! ## Users and groups -/

namespace Live

open Groups (Policy)

variable {h : Host} {policy : Policy} {user : String} {path : Path}

section Users

variable {a : Host.Account}

/-- A user who is found has the name. -/
theorem name_of_found (horderly : h.IsOrderly) (hfound : h.account? user = some a) :
    a ∈ h.users ∧ user ≠ "" ∧ '\x00' ∉ user.toList := by
  have ha := List.mem_of_find?_eq_some hfound
  have huser := List.find?_some hfound
  obtain ⟨own, hown, hnul, c, hc, -⟩ := horderly.users.named a ha
  rw [beq_iff_eq, hown, RawText.shown_ofString] at huser
  subst huser
  refine ⟨ha, ?_, hnul⟩
  rintro rfl
  cases hc

theorem resolveUser_of_found (horderly : h.IsOrderly) (hfound : h.account? user = some a) :
    (resolveUser h user).ending = .ok ⟨a.id, a.gid⟩ := by
  obtain ⟨-, hne, hnul⟩ := name_of_found horderly hfound
  have hname : ¬ (user.isEmpty || user.toList.contains '\x00') = true := by
    simp [hne, hnul]
  rw [resolveUser, if_neg hname, horderly.userNamed_eq, hfound]

theorem resolveUser_of_nobody (horderly : h.IsOrderly) (hfound : h.account? user = none) :
    (resolveUser h user).ending = .error (.error (.userNotFound user)) := by
  unfold resolveUser
  split
  · rfl
  · rw [horderly.userNamed_eq, hfound]

theorem memberships_of_found (horderly : h.IsOrderly) (hfound : h.account? user = some a)
    (gid : Gid) : h.memberships user gid = gid :: a.groups := by
  have hrow : (h.users.find? fun a => a.name == .ofString user) = some a :=
    (List.find?_congr (horderly.users.name_beq user)).trans hfound
  rw [Host.memberships, hrow]

/-- No buffer is stuck if there is room for the memberships and the increment. -/
theorem not_isStuck (horderly : h.IsOrderly) {gid : Gid}
    (hroom : (h.memberships user gid).length + policy.increment.toNat ≤ Size.countLimit)
    (capacity : Size) : ¬ h.IsStuck policy user gid capacity := by
  rintro ⟨hshort, hlimit⟩
  rcases horderly.reports with hreport | hreport
  · simp only [Host.shortCount, hreport, Int.toNat_natCast] at hlimit
    omega
  · simp only [Host.shortCount, hreport, Int.toNat_natCast] at hlimit
    omega

theorem resolveGroups_of_found (horderly : h.IsOrderly) (hroom : h.LeavesRoom policy)
    (hfound : h.account? user = some a) :
    (resolveGroups h policy user a.gid).ending = .ok ⟨a.gid :: a.groups⟩ := by
  obtain ⟨ha, -, hnul⟩ := name_of_found horderly hfound
  have hmember := memberships_of_found horderly hfound a.gid
  have hending : (resolveGroups h policy user a.gid).ending = .ok ⟨h.memberships user a.gid⟩ ∨ _ :=
    resolveGroups_ending horderly.honest hroom.1 hnul
  rcases hending with hlist | ⟨-, capacity, -, hstuck⟩
  · rw [hlist, hmember]
  · refine absurd hstuck (not_isStuck horderly ?_ capacity)
    rw [hmember]
    exact hroom.2 a ha

end Users

/-! ## Files -/

theorem stat_eq (horderly : h.IsOrderly) :
    h.stat path =
      match h.fileAt? path with
      | some f => .ok ⟨f.uid, f.gid, f.mode⟩
      | none => .error .noEntry := by
  unfold Host.stat
  cases hfile : h.fileAt? path with
  | none => rfl
  | some f => simp only [horderly.stats f (List.mem_of_find?_eq_some hfile)]

/-- The owner and the mode of every file are taken, and no other file is found. -/
theorem probe_ending (horderly : h.IsOrderly) (hpath : path.hasNul = false) :
    (probe h path).ending =
      match h.fileAt? path with
      | some f => .ok ⟨f.uid, f.gid, f.mode⟩
      | none => .error (.error (.fileNotFound path)) := by
  simp only [probe, hpath, stat_eq horderly, Bool.false_eq_true, if_false]
  cases h.fileAt? path <;> rfl

/-! ## Access control lists -/

/-- A name under which a number is handed over leads to some number. -/
theorem errorOf?_principalId {α : Type} {row : α → Host.Principal} {table : List α}
    (horderly : Host.Orderly row table) {id : UInt32} {name : String}
    (hname : Host.nameOf row table id = .ok name) (task : SystemTask) (defect : AclDefect) :
    errorOf? (principalId row (Host.lookUpName row table (.ofString name)) task defect path
      name) = none := by
  rw [horderly.lookUpName_eq]
  cases hfind : table.find? fun a => name == (row a).name.shown with
  | some a => rfl
  | none =>
      -- No row has the name, so it is the number in base ten.
      rcases Host.of_nameOf hname with ⟨a, ha, -, hshown⟩ | rfl
      · exact absurd (beq_iff_eq.mpr hshown) (List.find?_eq_none.mp hfind a ha)
      · have hself : Text.readNumeral greatestId (Text.decimal id.toNat).toList = .ok id.toNat :=
          Text.readNumeral_decimal (Nat.le_of_lt_succ id.toNat_lt)
        simp only [principalId, hself]
        rfl

/-- Of the entries that are handed over, those without meaning are refused, and no
others. -/
theorem errorOf?_entryOf (horderly : h.IsOrderly) {e : Entry} {n : NamedEntry}
    (hn : h.nameEntry e = .ok n) :
    errorOf? (entryOf h path n) =
      e.tag.raw?.map fun _ => .malformedAcl path .unsupportedKind := by
  obtain ⟨hhanded, -⟩ := Host.handedOver_of_nameEntry hn
  obtain ⟨kind, name, permission⟩ := n
  obtain ⟨tag, granted⟩ := e
  rw [entryOf, errorOf?_map]
  cases hhanded with
  | user hname =>
      simp only [tagOf]
      split
      · rfl
      · rw [errorOf?_map]
        exact errorOf?_principalId horderly.users hname _ _
  | group hname =>
      simp only [tagOf]
      split
      · rfl
      · rw [errorOf?_map]
        exact errorOf?_principalId horderly.groups hname _ _
  | owner | owningGroup | mask | other | unknown => rfl

theorem errorOf?_mapM_entryOf (horderly : h.IsOrderly) {stored : List Entry}
    {named : List NamedEntry}
    (hnamed : List.Forall₂ (fun e n => h.nameEntry e = .ok n) stored named) :
    errorOf? (named.mapM (entryOf h path)) =
      (Acl.mk stored).firstUnknown?.map fun _ => .malformedAcl path .unsupportedKind := by
  rw [errorOf?_mapM, Acl.firstUnknown?, List.map_findSome?]
  induction hnamed with
  | nil => rfl
  | cons hn _ ih =>
      rw [List.findSome?_cons, List.findSome?_cons, errorOf?_entryOf horderly hn, ih]
      rfl

/-- On an orderly host every stored entry is handed over. -/
theorem firstNamingFault?_eq_none (horderly : h.IsOrderly) (stored : List Entry) :
    h.firstNamingFault? stored = none := by
  rw [Host.firstNamingFault?, List.findSome?_eq_none_iff]
  intro e _
  unfold Host.namingFault?
  cases e.tag with
  | user uid => exact horderly.users.errorOf?_lookUpId uid
  | group gid => exact horderly.groups.errorOf?_lookUpId gid
  | _ => rfl

theorem storedEntries_of_listed {f : Host.File} (hfile : h.fileAt? path = some f) {acl : Acl}
    (hlisted : f.listed? = some acl) :
    h.storedEntries path = .ok acl.entries ∧ acl.entries ≠ [] := by
  unfold Host.File.listed? at hlisted
  split at hlisted
  · next e rest hacl =>
    obtain rfl := Option.some.inj hlisted
    constructor
    · simp only [Host.storedEntries, hfile, Host.File.storedEntries, hacl]
    · intro hnil
      have hlength := (Acl.storedOrder_perm (e :: rest)).length_eq
      rw [show Acl.storedOrder (e :: rest) = [] from hnil] at hlength
      cases hlength
  · cases hlisted

theorem keepsModeAlone_of_unlisted {f : Host.File} (hreadable : ∀ code, f.acl ≠ .unreadable code)
    (hlisted : f.listed? = none) : KeepsModeAlone f := by
  unfold Host.File.listed? at hlisted
  cases hacl : f.acl with
  | absent => exact .inl hacl
  | unreadable code => exact absurd hacl (hreadable code)
  | entries entries =>
      cases entries with
      | nil => exact .inr hacl
      | cons e rest =>
          rw [hacl] at hlisted
          cases hlisted

/-- A list with entries is handed over by name, and what is loaded follows from turning
its names back into numbers.  That fails for a tag without meaning alone. -/
theorem loadAcl_of_handedOver (horderly : h.IsOrderly) (hpath : path.hasNul = false)
    {stored : List Entry} (hstored : h.storedEntries path = .ok stored) (hne : stored ≠ [])
    (m : Metadata) :
    ∃ loaded : Except AccessError (List Entry),
      (loadAcl h path m).ending =
          (loaded.map fun entries => AclLoad.entries ⟨entries⟩).mapError .error ∧
        errorOf? loaded =
          (Acl.mk stored).firstUnknown?.map fun _ => .malformedAcl path .unsupportedKind := by
  obtain ⟨named, -, hnamed⟩ :=
    Host.readAcl_of_named hpath hstored (firstNamingFault?_eq_none horderly stored)
  exact ⟨named.mapM (entryOf h path), loadAcl_of_forall₂ hpath hstored hne hnamed m,
    errorOf?_mapM_entryOf horderly hnamed⟩

/-- A list with entries is loaded as it is kept, or refused for a tag without
meaning. -/
theorem loadAcl_of_listed (horderly : h.IsOrderly) (hpath : path.hasNul = false)
    {f : Host.File} (hfile : h.fileAt? path = some f) {acl : Acl} (hlisted : f.listed? = some acl)
    (m : Metadata) :
    (loadAcl h path m).ending =
      match acl.firstUnknown? with
      | some _ => .error (.error (.malformedAcl path .unsupportedKind))
      | none => .ok (.entries ⟨acl.entries.map Host.kept⟩) := by
  obtain ⟨hstored, hne⟩ := storedEntries_of_listed hfile hlisted
  obtain ⟨loaded, hload, hfault⟩ := loadAcl_of_handedOver horderly hpath hstored hne m
  have hfault : errorOf? loaded = acl.firstUnknown?.map fun _ =>
      .malformedAcl path .unsupportedKind := hfault
  cases hunknown : acl.firstUnknown? with
  | some raw =>
      rw [hunknown] at hfault
      cases loaded with
      | ok entries => cases hfault
      | error e =>
          obtain rfl := Option.some.inj hfault
          exact hload
  | none =>
      rw [hunknown] at hfault
      cases loaded with
      | error e => cases hfault
      | ok entries =>
          have hkept := Host.eq_map_kept_of_unambiguous horderly.users.unambiguous
            horderly.groups.unambiguous (forall₂_of_loadAcl hstored hne hload)
          refine hload.trans ?_
          exact congrArg (fun entries => Except.ok (AclLoad.entries ⟨entries⟩)) hkept

end Live

end ReadAccess
