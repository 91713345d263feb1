/-
  Decisions rehearsed over tables.

  Tables filled from the rows of a host answer as the host does, if no lookup on the
  host fails and no two rows share a name or a place.  The one difference is when a tag
  without meaning is found out: the host refuses to load such a list, and the tables
  hand it over to the first pass.  So a query over the tables says how the query on the
  host ends (`Live.tables_stand_for_host`).
-/
import ReadAccess.Proofs.Indifference
import ReadAccess.Proofs.Orderly

set_option autoImplicit false

namespace ReadAccess

open Text (RawText)
open Acl (Entry Tag NamedEntry)

/-! ## Tables filled row by row -/

namespace Memory

theorem samePath_iff (p q : Path) : samePath p q = true ↔ p.components = q.components := by
  rw [samePath, beq_iff_eq]

/-- Rows of which no two have one key are found by their keys, whatever the order in
which they are put in.  Some may have no value and are left out. -/
theorem find?_foldl_upsert {κ α δ ι : Type} {same : κ → κ → Bool} {f : κ → δ}
    (hsame : ∀ p q, same p q = true ↔ f p = f q) (key : ι → κ) (value : ι → Option α) (k : κ)
    {xs : List ι} (hkeys : xs.Pairwise fun x y => f (key x) ≠ f (key y))
    (rows : List (κ × α)) :
    find? same k
        (xs.foldl (fun rows x => (value x).elim rows fun a => upsert same (key x) a rows) rows) =
      ((xs.find? fun x => same k (key x)).bind value).or (find? same k rows) := by
  induction xs generalizing rows with
  | nil => rfl
  | cons x rest ih =>
      obtain ⟨hx, hrest⟩ := List.pairwise_cons.mp hkeys
      rw [List.foldl_cons, ih hrest, List.find?_cons]
      cases hk : same k (key x) with
      | true =>
          -- No later row has the key, so the row that is put in first stays.
          have hlater : rest.find? (fun y => same k (key y)) = none := by
            rw [List.find?_eq_none]
            intro y hy hsameKey
            exact hx y hy (((hsame _ _).mp hk).symm.trans ((hsame _ _).mp hsameKey))
          rw [hlater]
          cases hvalue : value x with
          | none => simp [hvalue]
          | some a => simp [hvalue, find?_upsert hsame, hk]
      | false =>
          cases hvalue : value x with
          | none => simp
          | some a => simp [find?_upsert hsame, hk]

/-- The users of a host.  Each is in its primary group, and after that in its further
groups. -/
def Directory.ofHost (h : Host) : Directory :=
  h.users.foldl (fun d a => d.add a.name.shown ⟨a.id, a.gid⟩ ⟨a.gid :: a.groups⟩) .empty

/-- The files of a host. -/
def Files.ofHost (h : Host) : Files :=
  h.files.foldl (fun t f => t.add f.path f.uid f.gid f.mode) .empty

end Memory

/-- A tag without meaning, whatever its number, as the one with the number zero. -/
def Acl.Tag.numberless : Tag → Tag
  | .unknown _ => .unknown 0
  | tag => tag

/-- The list with the number zero for every tag without meaning. -/
def Acl.numberless (acl : Acl) : Acl :=
  ⟨acl.entries.map fun e => ⟨e.tag.numberless, e.permission⟩⟩

namespace Memory

/-- The lists of a host.  A file without entries has no row. -/
def Acls.ofHost (h : Host) : Acls :=
  h.files.foldl
    (fun t f =>
      match f.listed? with
      | some acl => t.add f.path (.entries acl.numberless)
      | none => t)
    .minimal

/-- The list that the tables have for a file: its own, or the one that says what its
mode says. -/
def listOf (f : Host.File) : Acl := (f.listed?.map Acl.numberless).getD (.ofMode f.mode)

/-- The collaborators that answer from tables filled from a host. -/
def ofHost (h : Host) : Collaborators := collaborators (.ofHost h) (.ofHost h) (.ofHost h)

end Memory

/-! ## Places -/

namespace Host

section Files

variable {h : Host} {path : Path}

/-- The path is that of a file, or is alike to none. -/
def Names (h : Host) (path : Path) : Prop :=
  (∃ f ∈ h.files, f.path = path) ∨ ∀ f ∈ h.files, ¬ path.Alike f.path

/-- A path that is alike to that of a file is the path of the file. -/
theorem IsOrderly.samePath_eq (horderly : h.IsOrderly) (hnames : h.Names path) :
    ∀ f ∈ h.files, Memory.samePath path f.path = (f.path == path) := by
  intro f hf
  rw [Bool.eq_iff_iff, Memory.samePath_iff, beq_iff_eq]
  constructor
  · intro halike
    rcases hnames with ⟨g, hg, rfl⟩ | hnone
    · -- Files at paths alike are one file.
      have hkeys : (h.files.map fun f => f.path.components).Nodup :=
        List.pairwise_map.mpr horderly.places
      rw [List.inj_on_of_nodup_map hkeys hg hf halike]
    · exact absurd halike (hnone f hf)
  · rintro rfl
    rfl

theorem IsOrderly.find?_samePath (horderly : h.IsOrderly) (hnames : h.Names path) :
    (h.files.find? fun f => Memory.samePath path f.path) = h.fileAt? path :=
  List.find?_congr (horderly.samePath_eq hnames)

end Files

end Host

/-! ## What the tables answer -/

/-- Bits in front of a digit do not show in it. -/
theorem Permission.ofTriplet_or {extra : UInt32} (hextra : extra &&& 7 = 0) (mode : UInt32) :
    ofTriplet (extra ||| mode) = ofTriplet mode := by
  have hcut : (extra ||| mode) &&& 7 = mode &&& 7 := by
    apply UInt32.toBitVec_inj.mp
    have hzero := congrArg UInt32.toBitVec hextra
    rw [UInt32.toBitVec_and] at hzero
    rw [UInt32.toBitVec_and, UInt32.toBitVec_or, BitVec.and_or_distrib_right, hzero]
    simp
  rw [ofTriplet, ofTriplet, hcut]

/-- The file type does not show in the list of a mode. -/
theorem Memory.ofMode_regular (bits : UInt32) :
    Acl.ofMode (Files.regular bits) = Acl.ofMode bits := by
  have howner : Permission.ofTriplet (Files.regular bits >>> 6) = .ofTriplet (bits >>> 6) := by
    rw [Files.regular, UInt32.shiftRight_or]
    exact Permission.ofTriplet_or (by decide) _
  have hgroup : Permission.ofTriplet (Files.regular bits >>> 3) = .ofTriplet (bits >>> 3) := by
    rw [Files.regular, UInt32.shiftRight_or]
    exact Permission.ofTriplet_or (by decide) _
  have hother : Permission.ofTriplet (Files.regular bits) = .ofTriplet bits :=
    Permission.ofTriplet_or (by decide) _
  rw [Acl.ofMode, Acl.ofMode, howner, hgroup, hother]

namespace Memory

variable {h : Host} {path : Path} {user : String}

theorem Directory.ofHost_eq (h : Host) :
    Directory.ofHost h =
      ⟨h.users.foldl (fun rows a => upsert (· == ·) a.name.shown
        ⟨⟨a.id, a.gid⟩, ⟨a.gid :: a.groups⟩⟩ rows) [], true⟩ :=
  List.foldl_hom (fun rows => (⟨rows, true⟩ : Directory)) fun _ _ => rfl

theorem Files.ofHost_eq (h : Host) :
    Files.ofHost h =
      ⟨h.files.foldl (fun rows f => upsert samePath f.path
        ⟨f.uid, f.gid, regular f.mode⟩ rows) []⟩ :=
  List.foldl_hom Files.mk fun _ _ => rfl

theorem Acls.ofHost_eq (h : Host) :
    Acls.ofHost h =
      ⟨h.files.foldl (fun rows f =>
        (f.listed?.map fun acl => AclState.entries acl.numberless).elim rows fun state =>
          upsert samePath f.path state rows) [], true⟩ := by
  refine List.foldl_hom (fun rows => (⟨rows, true⟩ : Acls)) fun rows f => ?_
  cases f.listed? <;> rfl

theorem member?_ofHost (horderly : h.IsOrderly) (user : String) :
    (Directory.ofHost h).member? user =
      (h.account? user).map fun a => ⟨⟨a.id, a.gid⟩, ⟨a.gid :: a.groups⟩⟩ := by
  have hkeys : h.users.Pairwise fun a b => id a.name.shown ≠ id b.name.shown := by
    refine horderly.users.names.imp_of_mem fun {a b} ha hb hne hshown => hne ?_
    obtain ⟨name, hname, -, -⟩ := horderly.users.named a ha
    obtain ⟨other, hother, -, -⟩ := horderly.users.named b hb
    rw [hname, hother, id, id, RawText.shown_ofString, RawText.shown_ofString] at hshown
    rw [hname, hother, hshown]
  have hsame : ∀ p q : String, (p == q) = true ↔ id p = id q := fun p q => beq_iff_eq
  have hrows := find?_foldl_upsert hsame (fun a : Host.Account => a.name.shown)
    (fun a => some (⟨⟨a.id, a.gid⟩, ⟨a.gid :: a.groups⟩⟩ : Member)) user hkeys []
  rw [Directory.member?, Directory.ofHost_eq, Option.map_eq_bind]
  exact hrows.trans Option.or_none

section Users

variable {a : Host.Account}

theorem resolveUser_ofHost_of_found (horderly : h.IsOrderly)
    (hfound : h.account? user = some a) :
    (Directory.ofHost h).resolveUser user = .value ⟨a.id, a.gid⟩ := by
  simp only [Directory.resolveUser, member?_ofHost horderly, hfound, Option.map_some]

theorem resolveUser_ofHost_of_nobody (horderly : h.IsOrderly)
    (hfound : h.account? user = none) :
    (Directory.ofHost h).resolveUser user = .fail (.error (.userNotFound user)) := by
  simp only [Directory.resolveUser, member?_ofHost horderly, hfound, Option.map_none]

theorem resolveGroups_ofHost_of_found (horderly : h.IsOrderly)
    (hfound : h.account? user = some a) (gid : Gid) :
    (Directory.ofHost h).resolveGroups user gid = .value ⟨a.gid :: a.groups⟩ := by
  have hreachable : (Directory.ofHost h).reachable = true := by rw [Directory.ofHost_eq]
  simp only [Directory.resolveGroups, hreachable, if_true, member?_ofHost horderly, hfound,
    Option.map_some]

end Users

theorem probe_ofHost (horderly : h.IsOrderly) (hnames : h.Names path) :
    (Files.ofHost h).probe path =
      match h.fileAt? path with
      | some f => .value ⟨f.uid, f.gid, Files.regular f.mode⟩
      | none => .fail (.error (.fileNotFound path)) := by
  have hrow : find? samePath path (Files.ofHost h).rows =
      (h.fileAt? path).map fun f => ⟨f.uid, f.gid, Files.regular f.mode⟩ := by
    have hrows := find?_foldl_upsert samePath_iff (fun f : Host.File => f.path)
      (fun f => some (⟨f.uid, f.gid, Files.regular f.mode⟩ : Metadata)) path horderly.places []
    rw [Files.ofHost_eq, ← horderly.find?_samePath hnames, Option.map_eq_bind]
    exact hrows.trans Option.or_none
  rw [Files.probe, hrow]
  cases h.fileAt? path <;> rfl

theorem loadAcl_ofHost (horderly : h.IsOrderly) (hnames : h.Names path) {f : Host.File}
    (hfile : h.fileAt? path = some f) :
    (Acls.ofHost h).loadAcl path ⟨f.uid, f.gid, Files.regular f.mode⟩ =
      .value (.entries (listOf f)) := by
  have hrow : find? samePath path (Acls.ofHost h).rows =
      f.listed?.map fun acl => .entries acl.numberless := by
    have hrows := find?_foldl_upsert samePath_iff (fun f : Host.File => f.path)
      (fun f => f.listed?.map fun acl => AclState.entries acl.numberless) path horderly.places []
    rw [horderly.find?_samePath hnames, hfile] at hrows
    rw [Acls.ofHost_eq]
    exact hrows.trans Option.or_none
  have hminimal : (Acls.ofHost h).minimalByDefault = true := by rw [Acls.ofHost_eq]
  rw [Acls.loadAcl, hrow, hminimal, listOf]
  cases f.listed? with
  | some acl => rfl
  | none => simp only [Option.map_none, Option.getD_none, if_true, ofMode_regular]

end Memory

/-! ## Tables and host compared -/

namespace Query

/-- How a query ends over tables says how it ends on the host: with the same verdict,
or because nobody has the name or no file is at the path.  A tag without meaning is
found out by a pass over the tables and by a load on the host. -/
inductive Foretells (user : String) (path : Path) :
    Except Failure Verdict → Except Failure Verdict → Prop where
  | verdict (v : Verdict) : Foretells user path (.ok v) (.ok v)
  | nobody :
      Foretells user path (.error (.error (.userNotFound user)))
        (.error (.error (.userNotFound user)))
  | noFile :
      Foretells user path (.error (.error (.fileNotFound path)))
        (.error (.error (.fileNotFound path)))
  | meaningless :
      Foretells user path (.error (.error (.malformedAcl path (.unknownTag 0))))
        (.error (.error (.malformedAcl path .unsupportedKind)))

theorem Foretells.eq_verdict {user : String} {path : Path} {v : Verdict}
    {ending : Except Failure Verdict} (h : Foretells user path (.ok v) ending) :
    ending = .ok v := by
  cases h
  rfl

theorem Foretells.eq_unsupportedKind {user : String} {path : Path}
    {ending : Except Failure Verdict}
    (h : Foretells user path (.error (.error (.malformedAcl path (.unknownTag 0)))) ending) :
    ending = .error (.error (.malformedAcl path .unsupportedKind)) := by
  cases h
  rfl

end Query

/-- A question as it is put over tables: the mode in it is that of a regular file. -/
def Consultation.ofRegular : Consultation → Consultation
  | .loadAcl path m => .loadAcl path { m with mode := Memory.Files.regular m.mode }
  | question => question

/-- One collaborators' query rehearses that of others: it foretells how the other one
ends, and puts the same questions. -/
structure Query.Rehearses (c d : Collaborators) (user : String) (path : Path) : Prop where
  ending : Foretells user path (run c user path).ending (run d user path).ending
  questions : (run c user path).questions =
    (run d user path).questions.map Consultation.ofRegular

namespace Query

variable {c d : Collaborators} {user : String} {path : Path}

theorem rehearses_of_nobody
    (hc : (c.resolveUser user).ending = .error (.error (.userNotFound user)))
    (hd : (d.resolveUser user).ending = .error (.error (.userNotFound user))) :
    Rehearses c d user path := by
  constructor
  · rw [run_ending_of_unresolved hc, run_ending_of_unresolved hd]
    exact .nobody
  · rw [questions_run_eq_agenda, questions_run_eq_agenda, agenda_of_unresolved hc,
      agenda_of_unresolved hd]
    rfl

variable {record : UserRecord} (hcUser : (c.resolveUser user).ending = .ok record)
  (hdUser : (d.resolveUser user).ending = .ok record)

include hcUser hdUser

theorem rehearses_of_noFile
    (hc : (c.probe path).ending = .error (.error (.fileNotFound path)))
    (hd : (d.probe path).ending = .error (.error (.fileNotFound path))) :
    Rehearses c d user path := by
  constructor
  · rw [run_ending_of_unprobed hcUser hc, run_ending_of_unprobed hdUser hd]
    exact .noFile
  · rw [questions_run_eq_agenda, questions_run_eq_agenda, agenda_of_unprobed hcUser hc,
      agenda_of_unprobed hdUser hd]
    rfl

variable {m : Metadata}
  (hcFile : (c.probe path).ending = .ok { m with mode := Memory.Files.regular m.mode })
  (hdFile : (d.probe path).ending = .ok m) {acl : Acl}
  (hcLoad : (c.loadAcl path { m with mode := Memory.Files.regular m.mode }).ending =
    .ok (.entries acl))

include hcFile hdFile hcLoad

/-- A list with a tag without meaning ends the first pass over it, or the load. -/
theorem rehearses_of_unknown (hunknown : acl.firstUnknown? = some 0)
    (hdLoad : (d.loadAcl path m).ending =
      .error (.error (.malformedAcl path .unsupportedKind))) :
    Rehearses c d user path := by
  have hload : (AclLoad.entries acl).firstUnknown? = some 0 := hunknown
  constructor
  · rw [run_ending_of_probed hcUser hcFile, hcLoad, run_ending_of_probed hdUser hdFile, hdLoad]
    show Foretells user path (settle path _ record.uid (.entries acl) _) _
    rw [settle_of_unknown hload]
    exact .meaningless
  · have hasks : ∀ p, ¬ ((AclLoad.entries acl).firstUnknown? = none ∧ p) := by
      rintro p ⟨hnone, -⟩
      cases hload.symm.trans hnone
    rw [questions_run_eq_agenda, questions_run_eq_agenda,
      agenda_of_loads ⟨hcUser, hcFile, hcLoad⟩, agenda_of_unloaded hdUser hdFile hdLoad,
      if_neg (hasks _)]
    rfl

/-- Lists that say the same about reading are decided on alike. -/
theorem rehearses_of_known {loaded : Acl} {groups : GroupList}
    (hknown : acl.firstUnknown? = none)
    (hdLoad : (d.loadAcl path m).ending = .ok (.entries loaded))
    (hreadings : acl.readings = loaded.readings)
    (hcGroups : (c.resolveGroups user record.primaryGid).ending = .ok groups)
    (hdGroups : (d.resolveGroups user record.primaryGid).ending = .ok groups) :
    Rehearses c d user path := by
  let a : Answers := ⟨record, { m with mode := Memory.Files.regular m.mode }, .entries acl, groups⟩
  let b : Answers := ⟨record, m, .entries loaded, groups⟩
  have ha : a.Given c user path := ⟨hcUser, hcFile, hcLoad, hcGroups⟩
  have hb : b.Given d user path := ⟨hdUser, hdFile, hdLoad, hdGroups⟩
  have halike : a.Alike b := by
    refine ⟨rfl, ⟨rfl, rfl⟩, fun gid => Iff.rfl, .entries fun r => ?_⟩
    rw [hreadings]
  have hends : EndsAlike (run c user path).ending (run d user path).ending := by
    rw [ha.ending, hb.ending]
    exact settle_endsAlike halike path path
  constructor
  · have hverdict : (run c user path).ending =
        .ok (.ofBool (decide (a.load.PermitsMember a.metadata record.uid groups))) := by
      rw [ha.ending]
      simp only [settle, a, AclLoad.firstUnknown?, hknown]
    rw [hverdict] at hends ⊢
    generalize (run d user path).ending = ending at hends
    cases hends
    exact .verdict _
  · have hasks := and_congr (AclLoad.firstUnknown?_congr halike.load)
      (not_congr (AclLoad.permits_congr halike.owners halike.load (.user record.uid)))
    rw [questions_run_eq_agenda, questions_run_eq_agenda,
      agenda_of_loads ⟨hcUser, hcFile, hcLoad⟩, agenda_of_loads ⟨hdUser, hdFile, hdLoad⟩]
    by_cases hlists : (AclLoad.entries loaded).firstUnknown? = none ∧
        ¬ (AclLoad.entries loaded).Permits m (.user record.uid)
    · rw [if_pos (hasks.mpr hlists), if_pos hlists]
      rfl
    · rw [if_neg (mt hasks.mp hlists), if_neg hlists]
      rfl

end Query

namespace Acl

theorem firstUnknown?_numberless (acl : Acl) :
    acl.numberless.firstUnknown? = acl.firstUnknown?.map fun _ => 0 := by
  rw [firstUnknown?, firstUnknown?, numberless, List.findSome?_map, List.map_findSome?]
  refine congrArg (fun f => acl.entries.findSome? f) (funext fun e => ?_)
  obtain ⟨tag, permission⟩ := e
  cases tag <;> rfl

/-- What is loaded of a list whose tags all have a meaning says the same about reading
as the list. -/
theorem readings_numberless {acl : Acl} (h : acl.firstUnknown? = none) :
    acl.numberless.readings = (Acl.mk (acl.entries.map Host.kept)).readings := by
  simp only [readings, numberless, List.map_map]
  refine List.map_congr_left fun e he => ?_
  have hknown : e.tag.raw? = none := List.findSome?_eq_none_iff.mp h e he
  obtain ⟨tag, permission⟩ := e
  have htag : tag.numberless = tag := by
    cases tag with
    | unknown raw => cases hknown
    | _ => rfl
  simp only [Function.comp_apply, Host.kept, htag, Permission.canRead_cut]

end Acl

namespace Live

open Groups (Policy)
open Query (Rehearses)

variable {h : Host} {policy : Policy} {user : String} {path : Path}

/-- If all tags of the list in the tables have a meaning, the host loads one that says the
same about reading. -/
theorem load_of_known (horderly : h.IsOrderly) (hpath : path.hasNul = false)
    {f : Host.File} (hfile : h.fileAt? path = some f)
    (hknown : (Memory.listOf f).firstUnknown? = none) :
    ∃ loaded, (loadAcl h path ⟨f.uid, f.gid, f.mode⟩).ending = .ok (.entries loaded) ∧
      (Memory.listOf f).readings = loaded.readings := by
  unfold Memory.listOf at hknown ⊢
  cases hlisted : f.listed? with
  | none =>
      have hmem := List.mem_of_find?_eq_some hfile
      have hkeeps := keepsModeAlone_of_unlisted (horderly.lists f hmem) hlisted
      exact ⟨.ofMode f.mode, loadAcl_of_keepsModeAlone hpath hfile hkeeps rfl, rfl⟩
  | some own =>
      rw [hlisted, Option.map_some, Option.getD_some, Acl.firstUnknown?_numberless,
        Option.map_eq_none_iff] at hknown
      refine ⟨_, ?_, Acl.readings_numberless hknown⟩
      rw [loadAcl_of_listed horderly hpath hfile hlisted, hknown]

/-- If some tag of it has none, that is the number zero, and the host refuses the list. -/
theorem load_of_unknown (horderly : h.IsOrderly) (hpath : path.hasNul = false)
    {f : Host.File} (hfile : h.fileAt? path = some f) {raw : UInt16}
    (hunknown : (Memory.listOf f).firstUnknown? = some raw) :
    raw = 0 ∧ (loadAcl h path ⟨f.uid, f.gid, f.mode⟩).ending =
      .error (.error (.malformedAcl path .unsupportedKind)) := by
  unfold Memory.listOf at hunknown
  cases hlisted : f.listed? with
  | none =>
      rw [hlisted] at hunknown
      cases hunknown
  | some own =>
      rw [hlisted, Option.map_some, Option.getD_some, Acl.firstUnknown?_numberless,
        Option.map_eq_some_iff] at hunknown
      obtain ⟨number, hnumber, rfl⟩ := hunknown
      refine ⟨rfl, ?_⟩
      rw [loadAcl_of_listed horderly hpath hfile hlisted, hnumber]

theorem rehearses_of_file (horderly : h.IsOrderly) (hroom : h.LeavesRoom policy)
    (hpath : path.hasNul = false) (hnames : h.Names path) {a : Host.Account}
    (hfound : h.account? user = some a) {f : Host.File} (hfile : h.fileAt? path = some f) :
    Rehearses (Memory.ofHost h) (collaborators h policy) user path := by
  let m : Metadata := ⟨f.uid, f.gid, f.mode⟩
  have hcUser : ((Memory.ofHost h).resolveUser user).ending = .ok ⟨a.id, a.gid⟩ :=
    congrArg Traced.ending (Memory.resolveUser_ofHost_of_found horderly hfound)
  have hdUser : ((collaborators h policy).resolveUser user).ending = .ok ⟨a.id, a.gid⟩ :=
    resolveUser_of_found horderly hfound
  have hcFile : ((Memory.ofHost h).probe path).ending =
      .ok { m with mode := Memory.Files.regular m.mode } := by
    show ((Memory.Files.ofHost h).probe path).ending = _
    rw [Memory.probe_ofHost horderly hnames, hfile]
    rfl
  have hdFile : ((collaborators h policy).probe path).ending = .ok m := by
    show (probe h path).ending = _
    rw [probe_ending horderly hpath, hfile]
  have hcLoad : ((Memory.ofHost h).loadAcl path
      { m with mode := Memory.Files.regular m.mode }).ending =
        .ok (.entries (Memory.listOf f)) :=
    congrArg Traced.ending (Memory.loadAcl_ofHost horderly hnames hfile)
  cases hunknown : (Memory.listOf f).firstUnknown? with
  | some raw =>
      obtain ⟨rfl, hdLoad⟩ := load_of_unknown horderly hpath hfile hunknown
      exact Query.rehearses_of_unknown hcUser hdUser hcFile hdFile hcLoad hunknown hdLoad
  | none =>
      obtain ⟨loaded, hdLoad, hreadings⟩ := load_of_known horderly hpath hfile hunknown
      exact Query.rehearses_of_known hcUser hdUser hcFile hdFile hcLoad hunknown hdLoad hreadings
        (congrArg Traced.ending (Memory.resolveGroups_ofHost_of_found horderly hfound a.gid))
        (resolveGroups_of_found horderly hroom hfound)

/-- **Tables filled from a host stand for it.**  Where nothing fails on the host and no
two rows are taken for each other, a query over the tables foretells how the query on
the host ends, and puts the same questions: for every user, known or not, and every path
that is that of a file or not even alike to one. -/
theorem tables_stand_for_host (horderly : h.IsOrderly) (hroom : h.LeavesRoom policy)
    (user : String) (hpath : path.hasNul = false) (hnames : h.Names path) :
    Rehearses (Memory.ofHost h) (collaborators h policy) user path := by
  cases hfound : h.account? user with
  | none =>
      exact Query.rehearses_of_nobody
        (congrArg Traced.ending (Memory.resolveUser_ofHost_of_nobody horderly hfound))
        (resolveUser_of_nobody horderly hfound)
  | some a =>
      cases hfile : h.fileAt? path with
      | some f => exact rehearses_of_file horderly hroom hpath hnames hfound hfile
      | none =>
          refine Query.rehearses_of_noFile
            (congrArg Traced.ending (Memory.resolveUser_ofHost_of_found horderly hfound))
            (resolveUser_of_found horderly hfound) ?_ ?_
          · show ((Memory.Files.ofHost h).probe path).ending = _
            rw [Memory.probe_ofHost horderly hnames, hfile]
            rfl
          · show (probe h path).ending = _
            rw [probe_ending horderly hpath, hfile]

/-- A host with two users and a group.  One file has a list about the group, and the list
of the other has a tag without meaning. -/
def smallOffice : Host where
  users := [
    ⟨⟨.ofString "eve", 7, none, none, true, true⟩, 100, [42]⟩,
    ⟨⟨.ofString "bob", 8, none, none, true, true⟩, 100, []⟩]
  groups := [⟨.ofString "staff", 42, none, none, true, true⟩]
  files := [
    ⟨.ofString "/listed", 500, 50, 0o640, none,
      .entries [⟨.other, ⟨0⟩⟩, ⟨.group 42, ⟨4⟩⟩, ⟨.mask, ⟨7⟩⟩, ⟨.owningGroup, ⟨0⟩⟩, ⟨.owner, ⟨6⟩⟩],
      none⟩,
    ⟨.ofString "/odd", 500, 50, 0o644, none, .entries [⟨.other, ⟨4⟩⟩, ⟨.unknown 9, ⟨4⟩⟩], none⟩]
  habit := ⟨.capacity, none, false⟩
  currentUid := 0

theorem smallOffice_isOrderly : smallOffice.IsOrderly where
  users :=
    { reached := by decide
      faultless := by decide
      named := by
        simp only [smallOffice, List.forall_mem_cons]
        refine ⟨⟨"eve", rfl, by decide, 'e', by decide⟩,
          ⟨"bob", rfl, by decide, 'b', by decide⟩, ?_⟩
        intro a ha
        cases ha
      names := by decide }
  groups :=
    { reached := by decide
      faultless := by decide
      named := by
        simp only [smallOffice, List.forall_mem_cons]
        refine ⟨⟨"staff", rfl, by decide, 's', by decide⟩, ?_⟩
        intro a ha
        cases ha
      names := by decide }
  places := by decide
  stats := by decide
  lists := by simp [smallOffice]
  honest := by decide
  reports := .inr rfl

/-- Over the tables eve reads by the list and is stopped by the tag without meaning, so
she does and is on the host. -/
theorem tables_stand_for_smallOffice :
    smallOffice.IsOrderly ∧ smallOffice.LeavesRoom .standard ∧
      smallOffice.Names (.ofString "/listed") ∧ smallOffice.Names (.ofString "/odd") ∧
      (Query.run (collaborators smallOffice .standard) "eve" (.ofString "/listed")).ending =
        .ok .allowed ∧
      (Query.run (collaborators smallOffice .standard) "eve" (.ofString "/odd")).ending =
        .error (.error (.malformedAcl (.ofString "/odd") .unsupportedKind)) := by
  have hroom : smallOffice.LeavesRoom .standard := by
    refine ⟨by decide, ?_⟩
    simp only [smallOffice, List.forall_mem_cons]
    exact ⟨by decide, by decide, fun a ha => by cases ha⟩
  have hlisted : smallOffice.Names (.ofString "/listed") :=
    .inl ⟨_, List.mem_cons_self, rfl⟩
  have hodd : smallOffice.Names (.ofString "/odd") :=
    .inl ⟨_, List.mem_cons_of_mem _ List.mem_cons_self, rfl⟩
  have hallowed : (Query.run (Memory.ofHost smallOffice) "eve" (.ofString "/listed")).ending =
      .ok .allowed := by
    decide +kernel
  have hmalformed : (Query.run (Memory.ofHost smallOffice) "eve" (.ofString "/odd")).ending =
      .error (.error (.malformedAcl (.ofString "/odd") (.unknownTag 0))) := by
    decide +kernel
  have hread := tables_stand_for_host smallOffice_isOrderly hroom "eve" rfl hlisted
  have hstopped := tables_stand_for_host smallOffice_isOrderly hroom "eve" rfl hodd
  refine ⟨smallOffice_isOrderly, hroom, hlisted, hodd, ?_, ?_⟩
  · exact (hallowed ▸ hread.ending).eq_verdict
  · exact (hmalformed ▸ hstopped.ending).eq_unsupportedKind

end Live

end ReadAccess
