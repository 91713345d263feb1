/-
  Lists that say what a mode says.

  The list made of the mode of a file permits in each scope what the mode permits
  (`Acl.permits_ofMode_iff`).  A query therefore asks and ends alike whether it
  loads that list or learns that there is none, and a host that keeps nothing but
  the mode of a file, or a list without entries, decides about the file by its mode
  (`Live.minimalList_decides_as_mode`).
-/
import ReadAccess.Proofs.Attribution
import ReadAccess.Proofs.Fallback
import ReadAccess.Proofs.Sessions

set_option autoImplicit false

namespace ReadAccess

/-! ## Bits for reading -/

theorem and_twoPow_ne_zero_iff {w i : Nat} {x : BitVec w} (hi : i < w) :
    x &&& BitVec.twoPow w i ≠ 0#w ↔ x.getLsbD i = true := by
  rw [← Permission.and_twoPow_eq_iff hi, BitVec.and_twoPow]
  have hbit : (BitVec.twoPow w i).getLsbD i = true := by simp [hi]
  have hne : BitVec.twoPow w i ≠ 0#w := by
    intro hzero
    rw [hzero] at hbit
    simp at hbit
  split
  · exact iff_of_true hne rfl
  · exact iff_of_false (fun h => h rfl) hne.symm

namespace ModeBits

theorem has_eq_getLsbD {bit : UInt32} {i : Nat} (hi : i < 32)
    (hbit : bit.toBitVec = BitVec.twoPow 32 i) (mode : UInt32) :
    has mode bit = mode.toBitVec.getLsbD i := by
  rw [Bool.eq_iff_iff, has, bne_iff_ne, ne_eq, ← UInt32.toBitVec_inj, UInt32.toBitVec_and, hbit]
  exact and_twoPow_ne_zero_iff hi

/-- The digit of a mode behind `shift` others lets read by the third bit of it. -/
theorem canRead_ofTriplet (mode shift : UInt32) :
    (Permission.ofTriplet (mode >>> shift)).canRead =
      mode.toBitVec.getLsbD (shift.toNat % 32 + 2) := by
  rw [Permission.canRead_eq_getLsbD]
  simp [Permission.ofTriplet]

theorem canRead_owner (mode : UInt32) :
    (Permission.ofTriplet (mode >>> 6)).canRead = has mode ownerRead := by
  rw [canRead_ofTriplet,
    has_eq_getLsbD (by decide) (show ownerRead.toBitVec = .twoPow 32 8 from rfl)]
  rfl

theorem canRead_owningGroup (mode : UInt32) :
    (Permission.ofTriplet (mode >>> 3)).canRead = has mode groupRead := by
  rw [canRead_ofTriplet,
    has_eq_getLsbD (by decide) (show groupRead.toBitVec = .twoPow 32 5 from rfl)]
  rfl

theorem canRead_other (mode : UInt32) :
    (Permission.ofTriplet mode).canRead = has mode otherRead := by
  have hdigit := canRead_ofTriplet mode 0
  rw [UInt32.shiftRight_zero] at hdigit
  rw [hdigit, has_eq_getLsbD (by decide) (show otherRead.toBitVec = .twoPow 32 2 from rfl)]
  rfl

end ModeBits

/-! ## One pass -/

namespace Acl

theorem firstUnknown?_ofMode (mode : UInt32) : (ofMode mode).firstUnknown? = none := rfl

/-- The list of a mode has no mask, and its three entries grant reading by the three
bits of the mode. -/
theorem permits_ofMode_iff (m : Metadata) (scope : Scope) :
    (ofMode m.mode).Permits m scope ↔ ModeBits.Permits m scope := by
  have hmasks : ∀ e ∈ (ofMode m.mode).entries, e.LetsRead := by
    simp [ofMode, Entry.LetsRead]
  rw [Permits, and_iff_right hmasks]
  cases scope with
  | user uid =>
      simp [ofMode, Entry.GrantsRead, Tag.Concerns, ModeBits.Permits, ModeBits.canRead_owner,
        ModeBits.canRead_other m.mode, or_comm]
  | group groups =>
      simp [ofMode, Entry.GrantsRead, Tag.Concerns, ModeBits.Permits,
        ModeBits.canRead_owningGroup]

theorem pass_ofMode_ending (path : Path) (m : Metadata) (scope : Scope) :
    ((ofMode m.mode).pass path m scope).ending = (ModeBits.pass m scope).ending := by
  rw [pass_ending, firstUnknown?_ofMode, ModeBits.pass_ending]
  simp only [permits_ofMode_iff]

end Acl

/-! ## Whole queries -/

namespace Query

/-- What the list of a mode settles, the mode settles. -/
theorem settle_ofMode (path : Path) (m : Metadata) (uid : Uid)
    (groups : Except Failure GroupList) :
    settle path m uid (.entries (.ofMode m.mode)) groups =
      settle path m uid .unsupported groups := by
  have hlist : (AclLoad.entries (.ofMode m.mode)).firstUnknown? = none := rfl
  have hmode : AclLoad.unsupported.firstUnknown? = none := rfl
  have hpermits : ∀ scope, (AclLoad.entries (.ofMode m.mode)).Permits m scope ↔
      AclLoad.unsupported.Permits m scope := Acl.permits_ofMode_iff m
  by_cases hp : AclLoad.unsupported.Permits m (.user uid)
  · rw [settle_of_permits hmode hp, settle_of_permits hlist ((hpermits _).mpr hp)]
  · rw [settle_of_not_permits hmode hp, settle_of_not_permits hlist (mt (hpermits _).mp hp)]
    simp only [hpermits]

/-- The collaborators answer alike about the user, about the file, and about the
groups of the user. -/
structure AgreeBesidesLists (c d : Collaborators) (user : String) (path : Path) : Prop where
  users : (c.resolveUser user).ending = (d.resolveUser user).ending
  files : (c.probe path).ending = (d.probe path).ending
  groups : ∀ gid, (c.resolveGroups user gid).ending = (d.resolveGroups user gid).ending

/-- Queries of collaborators that load the list of a mode, and of others that find no
list, ask and end alike. -/
theorem run_ofMode_eq_unsupported {c d : Collaborators} {user : String} {path : Path}
    (h : AgreeBesidesLists c d user path)
    (hlists : ∀ m, (c.probe path).ending = .ok m →
      (c.loadAcl path m).ending = .ok (.entries (.ofMode m.mode)))
    (hbare : ∀ m, (c.probe path).ending = .ok m →
      (d.loadAcl path m).ending = .ok .unsupported) :
    (run c user path).ending = (run d user path).ending ∧
      (run c user path).questions = (run d user path).questions := by
  rw [questions_run_eq_agenda, questions_run_eq_agenda]
  -- A failure in front of the load is the same on both sides.
  cases hresolve : (c.resolveUser user).ending with
  | error failure =>
      have hresolve' := h.users.symm.trans hresolve
      rw [run_ending_of_unresolved hresolve, run_ending_of_unresolved hresolve',
        agenda_of_unresolved hresolve, agenda_of_unresolved hresolve']
      exact ⟨rfl, rfl⟩
  | ok record =>
      have hresolve' := h.users.symm.trans hresolve
      cases hprobe : (c.probe path).ending with
      | error failure =>
          have hprobe' := h.files.symm.trans hprobe
          rw [run_ending_of_unprobed hresolve hprobe, run_ending_of_unprobed hresolve' hprobe',
            agenda_of_unprobed hresolve hprobe, agenda_of_unprobed hresolve' hprobe']
          exact ⟨rfl, rfl⟩
      | ok m =>
          have hprobe' := h.files.symm.trans hprobe
          constructor
          · rw [run_ending_of_probed hresolve hprobe, run_ending_of_probed hresolve' hprobe',
              hlists m hprobe, hbare m hprobe, h.groups record.primaryGid]
            exact settle_ofMode path m record.uid _
          · rw [agenda_of_loads ⟨hresolve, hprobe, hlists m hprobe⟩,
              agenda_of_loads ⟨hresolve', hprobe', hbare m hprobe⟩]
            simp only [AclLoad.firstUnknown?, AclLoad.Permits, Acl.firstUnknown?_ofMode,
              Acl.permits_ofMode_iff]

end Query

/-! ## Files that keep nothing but their mode -/

theorem Permission.cut_ofTriplet (mode : UInt32) : (ofTriplet mode).cut = ofTriplet mode := by
  refine congrArg Permission.mk (UInt16.toBitVec_inj.mp ?_)
  apply BitVec.eq_of_getLsbD_eq
  intro i hi
  simp [ofTriplet]

namespace Live

open Groups (Policy)

variable {h : Host} {path : Path} {f : Host.File}

/-- The list that a host makes up of the mode of a file is loaded as it is: it names
nobody, so nobody is looked up. -/
theorem loadAcl_of_absent (hpath : path.hasNul = false) (hfile : h.fileAt? path = some f)
    (hacl : f.acl = .absent) (m : Metadata) :
    (loadAcl h path m).ending = .ok (.entries (.ofMode f.mode)) := by
  have hstored : h.storedEntries path = .ok (Acl.ofMode f.mode).entries := by
    simp only [Host.storedEntries, hfile, Host.File.storedEntries, hacl]
  have hread : h.readAcl path = .ok [⟨.user, "", .ofTriplet (f.mode >>> 6)⟩,
      ⟨.group, "", .ofTriplet (f.mode >>> 3)⟩, ⟨.other, "", .ofTriplet f.mode⟩] := by
    simp only [Host.readAcl, hpath, hstored, Bool.false_eq_true, if_false]
    rfl
  have hcut : Acl.ofMode f.mode = ⟨(Acl.ofMode f.mode).entries.map Host.kept⟩ := by
    simp only [Acl.ofMode, Host.kept, List.map_cons, List.map_nil, Permission.cut_ofTriplet]
  rw [loadAcl, Traced.after_ending, hread, hcut]
  rfl

theorem loadAcl_of_empty (hpath : path.hasNul = false) (hfile : h.fileAt? path = some f)
    (hacl : f.acl = .entries []) (m : Metadata) :
    (loadAcl h path m).ending = .ok (.entries (.ofMode m.mode)) := by
  have hstored : h.storedEntries path = .ok [] := by
    simp only [Host.storedEntries, hfile, Host.File.storedEntries, hacl]
    rfl
  have hread : h.readAcl path = .ok [] := by
    obtain ⟨named, hread, hnamed⟩ := Host.readAcl_of_named hpath hstored rfl
    cases hnamed
    exact hread
  rw [loadAcl, Traced.after_ending, hread]
  rfl

/-- The collaborators that ask the host for everything but lists, of which they say
that there are none. -/
def withoutLists (h : Host) (policy : Policy) : Collaborators :=
  { collaborators h policy with loadAcl := fun _ _ => .value .unsupported }

/-- The host keeps nothing about who may read the file but its mode. -/
def KeepsModeAlone (f : Host.File) : Prop := f.acl = .absent ∨ f.acl = .entries []

theorem loadAcl_of_keepsModeAlone (hpath : path.hasNul = false)
    (hfile : h.fileAt? path = some f) (hkeeps : KeepsModeAlone f) {m : Metadata}
    (hmode : m.mode = f.mode) :
    (loadAcl h path m).ending = .ok (.entries (.ofMode m.mode)) := by
  rcases hkeeps with habsent | hempty
  · rw [loadAcl_of_absent hpath hfile habsent, hmode]
  · exact loadAcl_of_empty hpath hfile hempty m

theorem stat_of_probe {m : Metadata} (hprobe : (probe h path).ending = .ok m) :
    h.stat path = .ok m := by
  unfold probe at hprobe
  split at hprobe
  · cases hprobe
  · cases hstat : h.stat path with
    | error code => rw [hstat] at hprobe; cases hprobe
    | ok n =>
        rw [hstat] at hprobe
        exact congrArg Except.ok (Except.ok.inj hprobe)

/-- The mode that a query works with is that of the file. -/
theorem mode_of_probe (hfile : h.fileAt? path = some f) {m : Metadata}
    (hprobe : (probe h path).ending = .ok m) : m.mode = f.mode := by
  have hstat := stat_of_probe hprobe
  unfold Host.stat at hstat
  rw [hfile] at hstat
  cases hfault : f.statFault with
  | some code => simp only [hfault] at hstat; cases hstat
  | none =>
      simp only [hfault] at hstat
      exact congrArg Metadata.mode (Except.ok.inj hstat).symm

/-- A file of which the host keeps the mode alone is decided about as if there were no
lists. -/
theorem run_of_keepsModeAlone (policy : Policy) (user : String) (hpath : path.hasNul = false)
    (hfile : h.fileAt? path = some f) (hkeeps : KeepsModeAlone f) :
    (Query.run (collaborators h policy) user path).ending =
        (Query.run (withoutLists h policy) user path).ending ∧
      (Query.run (collaborators h policy) user path).questions =
        (Query.run (withoutLists h policy) user path).questions := by
  have hagree : Query.AgreeBesidesLists (collaborators h policy) (withoutLists h policy) user
      path := ⟨rfl, rfl, fun _ => rfl⟩
  refine Query.run_ofMode_eq_unsupported hagree (fun m hprobe => ?_) fun m _ => rfl
  exact loadAcl_of_keepsModeAlone hpath hfile hkeeps (mode_of_probe hfile hprobe)

theorem run_verdict_of_keepsModeAlone (policy : Policy) {user : String} {record : UserRecord}
    {groups : GroupList} (hpath : path.hasNul = false) (hfile : h.fileAt? path = some f)
    (hkeeps : KeepsModeAlone f) (hstat : f.statFault = none)
    (hresolve : (resolveUser h user).ending = .ok record)
    (hgroups : (resolveGroups h policy user record.primaryGid).ending = .ok groups) :
    ∃ v, (Query.run (collaborators h policy) user path).ending = .ok v ∧
      (v = .allowed ↔ ModeBits.PermitsMember ⟨f.uid, f.gid, f.mode⟩ record.uid groups) := by
  let m : Metadata := ⟨f.uid, f.gid, f.mode⟩
  have hfound : h.stat path = .ok m := by
    simp only [Host.stat, hfile, hstat, m]
  have hload : (loadAcl h path m).ending = .ok (.entries (.ofMode m.mode)) :=
    loadAcl_of_keepsModeAlone hpath hfile hkeeps rfl
  have hending : (Query.run (collaborators h policy) user path).ending =
      Query.settle path m record.uid .unsupported (.ok groups) := by
    rw [Query.run_ending_of_probed (c := collaborators h policy) hresolve
      (probe_of_stat hpath hfound)]
    simp only [collaborators, hload, hgroups]
    exact Query.settle_ofMode path m record.uid (.ok groups)
  refine ⟨_, hending, ?_⟩
  rw [Verdict.ofBool_eq_allowed_iff, decide_eq_true_iff]
  rfl

/-- **The list of a mode and the mode itself decide alike.**  In each scope a pass over
the list answers as a pass over the mode.  So over any tables a query ends alike, and
asks the same, whether every file has the list of its mode or none has a list.  A host
hands out that list for a file whose list it does not keep or keeps without entries,
and decides about the file by its mode. -/
theorem minimalList_decides_as_mode :
    (∀ (path : Path) (m : Metadata) (scope : Scope),
        ((Acl.ofMode m.mode).pass path m scope).ending = (ModeBits.pass m scope).ending) ∧
      (∀ (d : Memory.Directory) (files : Memory.Files) (user : String) (path : Path),
        let minimal := Query.run (Memory.collaborators d files .minimal) user path
        let bare := Query.run (Memory.collaborators d files .unsupported) user path
        minimal.ending = bare.ending ∧ minimal.questions = bare.questions) ∧
      ∀ (h : Host) (path : Path) (f : Host.File), path.hasNul = false →
        h.fileAt? path = some f → KeepsModeAlone f →
          (∀ m, m.mode = f.mode →
            (loadAcl h path m).ending = .ok (.entries (.ofMode m.mode))) ∧
          ∀ (policy : Policy) (user : String),
            (Query.run (collaborators h policy) user path).ending =
                (Query.run (withoutLists h policy) user path).ending ∧
              (Query.run (collaborators h policy) user path).questions =
                (Query.run (withoutLists h policy) user path).questions ∧
              ∀ (record : UserRecord) (groups : GroupList), f.statFault = none →
                (resolveUser h user).ending = .ok record →
                (resolveGroups h policy user record.primaryGid).ending = .ok groups →
                  ∃ v, (Query.run (collaborators h policy) user path).ending = .ok v ∧
                    (v = .allowed ↔
                      ModeBits.PermitsMember ⟨f.uid, f.gid, f.mode⟩ record.uid groups) := by
  refine ⟨Acl.pass_ofMode_ending, fun d files user path => ?_,
    fun h path f hpath hfile hkeeps =>
      ⟨fun m hmode => loadAcl_of_keepsModeAlone hpath hfile hkeeps hmode,
        fun policy user => ?_⟩⟩
  · have hagree : Query.AgreeBesidesLists (Memory.collaborators d files .minimal)
        (Memory.collaborators d files .unsupported) user path := ⟨rfl, rfl, fun _ => rfl⟩
    exact Query.run_ofMode_eq_unsupported hagree (fun m _ => rfl) fun m _ => rfl
  · obtain ⟨hending, hquestions⟩ := run_of_keepsModeAlone policy user hpath hfile hkeeps
    exact ⟨hending, hquestions, fun record groups hstat hresolve hgroups =>
      run_verdict_of_keepsModeAlone policy hpath hfile hkeeps hstat hresolve hgroups⟩

/-- A host with a user whose second group may read a file by its mode.  The list of
the file has no entries. -/
def modeAlone : Host where
  users := [⟨⟨.ofString "eve", 7, none, none, true, true⟩, 100, [50]⟩]
  groups := []
  files := [⟨.ofString "/f", 500, 50, 0o100640, none, .entries [], none⟩]
  habit := .plain
  currentUid := 0

/-- The user may read the file, which loads with the list of its mode. -/
theorem minimalList_decides_modeAlone :
    (loadAcl modeAlone (.ofString "/f") ⟨500, 50, 0o100640⟩).ending =
        .ok (.entries (.ofMode 0o100640)) ∧
      (Query.run (collaborators modeAlone .standard) "eve" (.ofString "/f")).ending =
        .ok .allowed ∧
      (Query.run (withoutLists modeAlone .standard) "eve" (.ofString "/f")).ending =
        .ok .allowed := by
  obtain ⟨-, -, hhosts⟩ := minimalList_decides_as_mode
  obtain ⟨hload, hruns⟩ := hhosts modeAlone (.ofString "/f") _ rfl rfl (.inr rfl)
  obtain ⟨hending, -, hverdict⟩ := hruns .standard "eve"
  have hgroups : (resolveGroups modeAlone .standard "eve" 100).ending = .ok ⟨[100, 50]⟩ := by
    decide +kernel
  have hpermits : ModeBits.PermitsMember ⟨500, 50, 0o100640⟩ 7 ⟨[100, 50]⟩ :=
    .inr (.inr (by decide))
  obtain ⟨v, hv, hallowed⟩ := hverdict ⟨7, 100⟩ ⟨[100, 50]⟩ rfl rfl hgroups
  obtain rfl := hallowed.mpr hpermits
  exact ⟨hload _ rfl, hv, hending.symm.trans hv⟩

end Live

end ReadAccess
