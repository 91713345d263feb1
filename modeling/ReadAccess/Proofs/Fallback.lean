/-
  When the mode bits decide in place of an access control list.

  In a query they do exactly if the load says that there is no list
  (`Query.aclUnsupported_mem_events_iff`).  A load says so of a file whose list
  was read, if the first lookup of a number in it that fails does so because it
  is not supported.  It never says so of a file whose list cannot be read: by
  then the number of that failure is lost.
-/
import ReadAccess.Live
import ReadAccess.Proofs.Decision
import ReadAccess.Proofs.Naming

set_option autoImplicit false

namespace ReadAccess

/-! ## Events of a pass over a list -/

/-- What holds of all entries that the parts of a sequence leave on its trace
holds of all of them. -/
theorem Traced.forall_mem_bind {τ ε α β : Type} {p : τ → Prop} {x : Traced τ ε α}
    {f : α → Traced τ ε β} (hx : ∀ t ∈ x.trace, p t) (hf : ∀ a, ∀ t ∈ (f a).trace, p t) :
    ∀ t ∈ (x >>= f).trace, p t := by
  cases h : x.ending with
  | error e =>
      rw [Traced.bind_of_error h]
      exact hx
  | ok a =>
      rw [Traced.bind_of_value h]
      exact List.forall_mem_append.mpr ⟨hx, hf a⟩

/-- An event about an entry, or about the findings over all entries. -/
def Event.IsOfList : Event → Prop
  | .aclEntry .. | .aclPass .. => True
  | _ => False

namespace Acl

theorem walk_isOfList {m : Metadata} {scope : Scope} {t : Tally} {entries : List Entry} :
    ∀ e ∈ (walk m scope t entries).trace, e.IsOfList := by
  induction entries generalizing t with
  | nil => simp [walk, Traced.value]
  | cons e rest ih =>
      rw [walk]
      cases e.tag.appliesTo m scope with
      | error raw => simp [Traced.fail]
      | ok applies =>
          simp only [Traced.after_trace, List.singleton_append, List.forall_mem_cons]
          exact ⟨trivial, ih⟩

theorem pass_isOfList {acl : Acl} {path : Path} {m : Metadata} {scope : Scope} :
    ∀ e ∈ ((AclLoad.entries acl).pass path m scope).trace, e.IsOfList := by
  refine Traced.forall_mem_bind (Traced.forall_mem_bind ?_ fun t => ?_) fun verdict => ?_
  · exact walk_isOfList
  · simp [Event.IsOfList]
  · simp

end Acl

namespace Query

variable {c : Collaborators} {user : String} {path : Path} {record : UserRecord} {m : Metadata}

theorem aclUnsupported_notMem_groupsOf :
    Event.aclUnsupported ∉ (groupsOf c user record).events := by
  rw [groupsOf_eq]
  refine Course.notMem_events_bind (by simp) fun groups _ => ?_
  simp [Course.events_bind]

theorem aclUnsupported_notMem_byLoad (acl : Acl) :
    Event.aclUnsupported ∉ (byLoad c user path record m (.entries acl)).events := by
  have hpass : ∀ scope, Event.aclUnsupported ∉
      (report ((AclLoad.entries acl).pass path m scope)).events := fun scope h => by
    rw [Course.events_report] at h
    exact Acl.pass_isOfList _ h
  rw [byLoad_eq]
  refine Course.notMem_events_bind (hpass _) fun outcome houtcome => ?_
  cases outcome with
  | allowed => simp
  | denied =>
      refine Course.notMem_events_bind aclUnsupported_notMem_groupsOf fun groups _ => ?_
      exact Course.notMem_events_bind (hpass _) fun _ _ => by simp
  | unsupported =>
      have hverdict : ∀ v, Outcome.ofVerdict v ≠ .unsupported := fun v => by
        cases v <;> simp [Outcome.ofVerdict]
      rw [report_ending, AclLoad.pass_entries_ending] at houtcome
      cases h : acl.firstUnknown? with
      | some raw => rw [h] at houtcome; cases houtcome
      | none =>
          rw [h] at houtcome
          exact absurd (Except.ok.inj houtcome) (hverdict _)

/-- A query reports a filesystem without lists exactly if it gets as far as the
load and the load says so. -/
theorem aclUnsupported_mem_events_iff :
    Event.aclUnsupported ∈ (run c user path).events ↔
      ∃ record m, (c.resolveUser user).ending = .ok record ∧ (c.probe path).ending = .ok m ∧
        (c.loadAcl path m).ending = .ok .unsupported := by
  have hclosing : Event.aclUnsupported ∉ closing (deliberate c user path).ending := by
    cases (deliberate c user path).ending with
    | ok verdict => simp [closing]
    | error failure => cases failure <;> simp [closing]
  rw [events_run, List.mem_append, or_iff_left hclosing]
  simp only [deliberate_eq, Course.events_bind, Course.events_ask, Course.events_emit, ask_ending,
    emit_ending, List.nil_append]
  cases hresolve : (c.resolveUser user).ending with
  | error failure => simp
  | ok record =>
      cases hprobe : (c.probe path).ending with
      | error failure => simp
      | ok m =>
          cases hload : (c.loadAcl path m).ending with
          | error failure => simp [hload]
          | ok load =>
              cases load with
              | entries acl => simp [hload, aclUnsupported_notMem_byLoad]
              | unsupported =>
                  have hby : Event.aclUnsupported ∈
                      (byLoad c user path record m .unsupported).events := by
                    show _ ∈ (byMode c user record m).events
                    simp [byMode_eq, Course.events_bind]
                  simp [hload, hby]

end Query

/-! ## Loads that say there is no list -/

/-- The list of the file was read, and the first lookup of a number in it that
fails does so because it is not supported. -/
def Host.NamingUnsupported (h : Host) (path : Path) : Prop :=
  ∃ stored, h.storedEntries path = .ok stored ∧ h.firstNamingFault? stored = some .notSupported

namespace Live

open Groups (Policy)

variable {h : Host} {path : Path}

/-- A list that cannot be read is a failure of the system, whatever its
number. -/
theorem loadAcl_of_unreadable {code : Errno} (hpath : path.hasNul = false)
    (hstored : h.storedEntries path = .error code) (m : Metadata) :
    (loadAcl h path m).ending = .error (.error (.systemFailure .readAcl (.onFile path code))) := by
  rw [loadAcl, Traced.after_ending, Host.readAcl_of_unreadable hpath hstored]
  rfl

/-- A list that is handed over is loaded, or some entry of it is at fault. -/
theorem loadOf_named_ne_unsupported (m : Metadata) (named : List Acl.NamedEntry) :
    (loadOf h path m (.ok named)).ending ≠ .ok .unsupported := by
  simp only [loadOf]
  split
  · simp
  · cases named.mapM (entryOf h path) <;> simp [refuse, Traced.fail]

/-- A load says that there is no list exactly if the lookup of a number in the
list is not supported. -/
theorem loadAcl_unsupported_iff (hpath : path.hasNul = false) (m : Metadata) :
    (loadAcl h path m).ending = .ok .unsupported ↔ h.NamingUnsupported path := by
  cases hstored : h.storedEntries path with
  | error code =>
      rw [loadAcl_of_unreadable hpath hstored]
      simp [Host.NamingUnsupported, hstored]
  | ok stored =>
      have hnaming : h.NamingUnsupported path ↔
          h.firstNamingFault? stored = some .notSupported := by
        simp [Host.NamingUnsupported, hstored]
      rw [hnaming, loadAcl, Traced.after_ending]
      -- Of all failures only that of a lookup still has its number here.
      cases hfault : h.firstNamingFault? stored with
      | some code =>
          rw [Host.readAcl_of_unnamed hpath hstored hfault]
          by_cases hcode : code = .notSupported
          · simp [loadOf, meansUnsupported, IoError.code?, hcode]
          · simp [loadOf, meansUnsupported, IoError.code?, hcode, refuse, Traced.fail]
      | none =>
          obtain ⟨named, hread, -⟩ := Host.readAcl_of_named hpath hstored hfault
          rw [hread]
          simp [loadOf_named_ne_unsupported]

theorem probe_of_stat {m : Metadata} (hpath : path.hasNul = false) (hstat : h.stat path = .ok m) :
    (probe h path).ending = .ok m := by
  simp only [probe, hpath, hstat, Bool.false_eq_true, if_false]

theorem not_namingUnsupported_of_unreadable {code : Errno}
    (hstored : h.storedEntries path = .error code) : ¬ h.NamingUnsupported path := by
  rintro ⟨stored, hread, -⟩
  rw [hstored] at hread
  cases hread

section Runs

variable {user : String} {record : UserRecord} {m : Metadata}

/-- A query about a file whose list cannot be read fails. -/
theorem run_ending_of_unreadable (policy : Policy) {code : Errno} (hpath : path.hasNul = false)
    (hresolve : (resolveUser h user).ending = .ok record) (hstat : h.stat path = .ok m)
    (hstored : h.storedEntries path = .error code) :
    (Query.run (collaborators h policy) user path).ending =
      .error (.error (.systemFailure .readAcl (.onFile path code))) := by
  have hload : ((collaborators h policy).loadAcl path m).ending = _ :=
    loadAcl_of_unreadable hpath hstored m
  rw [Query.run_ending_of_probed (c := collaborators h policy) hresolve (probe_of_stat hpath hstat),
    hload]
  rfl

/-- A query about a file whose list was read is decided by the mode bits if the
lookup of a number in the list is not supported. -/
theorem run_ending_of_namingUnsupported (policy : Policy) (hpath : path.hasNul = false)
    (hresolve : (resolveUser h user).ending = .ok record) (hstat : h.stat path = .ok m)
    (hnaming : h.NamingUnsupported path) :
    (Query.run (collaborators h policy) user path).ending =
      Query.settle path m record.uid .unsupported
        (resolveGroups h policy user record.primaryGid).ending := by
  have hload : ((collaborators h policy).loadAcl path m).ending = .ok .unsupported :=
    (loadAcl_unsupported_iff hpath m).mpr hnaming
  rw [Query.run_ending_of_probed (c := collaborators h policy) hresolve (probe_of_stat hpath hstat),
    hload]
  rfl

theorem aclUnsupported_mem_events_iff (policy : Policy) (hpath : path.hasNul = false)
    (hresolve : (resolveUser h user).ending = .ok record) (hstat : h.stat path = .ok m) :
    Event.aclUnsupported ∈ (Query.run (collaborators h policy) user path).events ↔
      h.NamingUnsupported path := by
  rw [Query.aclUnsupported_mem_events_iff]
  constructor
  · rintro ⟨record, m, -, -, hload⟩
    exact (loadAcl_unsupported_iff hpath m).mp hload
  · intro hnaming
    exact ⟨record, m, hresolve, probe_of_stat hpath hstat,
      (loadAcl_unsupported_iff hpath m).mpr hnaming⟩

end Runs

/-- **The mode bits decide where the lookup of a number is not supported, and
not where lists are not supported.**  A load says that there is no list exactly
if the list was read and the first lookup of a number in it that fails is not
supported.  This amounts to a read that is not supported only where neither
happens.  A query about a file whose list cannot be read fails, whatever the
reason, and one about a file whose list was read may be decided by its mode. -/
theorem fallsBack_iff_namingUnsupported (h : Host) (path : Path) (hpath : path.hasNul = false) :
    (∀ m, (loadAcl h path m).ending = .ok .unsupported ↔ h.NamingUnsupported path) ∧
      (∀ m, ((loadAcl h path m).ending = .ok .unsupported ↔
          h.storedEntries path = .error .notSupported) ↔
        ¬ h.NamingUnsupported path ∧ h.storedEntries path ≠ .error .notSupported) ∧
      ∀ (policy : Policy) (user : String) (record : UserRecord) (m : Metadata),
        (resolveUser h user).ending = .ok record → h.stat path = .ok m →
          (Event.aclUnsupported ∈ (Query.run (collaborators h policy) user path).events ↔
            h.NamingUnsupported path) ∧
          (∀ code, h.storedEntries path = .error code →
            (Query.run (collaborators h policy) user path).ending =
              .error (.error (.systemFailure .readAcl (.onFile path code)))) ∧
          (h.NamingUnsupported path →
            (Query.run (collaborators h policy) user path).ending =
              Query.settle path m record.uid .unsupported
                (resolveGroups h policy user record.primaryGid).ending) := by
  refine ⟨fun m => loadAcl_unsupported_iff hpath m, fun m => ?_,
    fun policy user record m hresolve hstat =>
      ⟨aclUnsupported_mem_events_iff policy hpath hresolve hstat,
        fun code hstored => run_ending_of_unreadable policy hpath hresolve hstat hstored,
        fun hnaming => run_ending_of_namingUnsupported policy hpath hresolve hstat hnaming⟩⟩
  rw [loadAcl_unsupported_iff hpath]
  -- The two conditions exclude each other, so they are equivalent only if both fail.
  constructor
  · intro hiff
    exact ⟨fun hnaming => not_namingUnsupported_of_unreadable (hiff.mp hnaming) hnaming,
      fun hstored => not_namingUnsupported_of_unreadable hstored (hiff.mpr hstored)⟩
  · rintro ⟨hnaming, hstored⟩
    exact iff_of_false hnaming hstored

/-- A host that does not support looking up the number of its only user.  One
file has a list that names this user and lets nobody read, and the list of the
other file cannot be read because the filesystem has none. -/
def halfSupported : Host where
  users := [⟨⟨.ofString "eve", 7, none, some .notSupported, true, true⟩, 100, []⟩]
  groups := []
  files := [
    ⟨.ofString "/listed", 500, 50, 0o100644, none,
      .entries [⟨.owner, ⟨6⟩⟩, ⟨.user 7, ⟨4⟩⟩, ⟨.owningGroup, ⟨4⟩⟩, ⟨.mask, ⟨0⟩⟩, ⟨.other, ⟨4⟩⟩],
      none⟩,
    ⟨.ofString "/bare", 500, 50, 0o100644, none, .unreadable .notSupported, none⟩]
  habit := .plain
  currentUid := 0

/-- The mode lets the user read the file whose list lets nobody read, and the
query about the file without a list fails. -/
theorem fallsBack_halfSupported :
    halfSupported.NamingUnsupported (.ofString "/listed") ∧
      (Query.run (collaborators halfSupported .standard) "eve" (.ofString "/listed")).ending =
        .ok .allowed ∧
      halfSupported.storedEntries (.ofString "/bare") = .error .notSupported ∧
      (loadAcl halfSupported (.ofString "/bare") ⟨500, 50, 0o100644⟩).ending ≠ .ok .unsupported ∧
      (Query.run (collaborators halfSupported .standard) "eve" (.ofString "/bare")).ending =
        .error (.error (.systemFailure .readAcl (.onFile (.ofString "/bare") .notSupported))) := by
  have hnaming : halfSupported.NamingUnsupported (.ofString "/listed") := ⟨_, rfl, rfl⟩
  have hbare : halfSupported.storedEntries (.ofString "/bare") = .error .notSupported := rfl
  have hmode : AclLoad.unsupported.Permits ⟨500, 50, 0o100644⟩ (.user 7) := by decide
  obtain ⟨-, -, hlisted⟩ :=
    fallsBack_iff_namingUnsupported halfSupported (.ofString "/listed") rfl
  obtain ⟨-, hload, hunlisted⟩ :=
    fallsBack_iff_namingUnsupported halfSupported (.ofString "/bare") rfl
  refine ⟨hnaming, ?_, hbare, fun hfalls => ?_, ?_⟩
  · obtain ⟨-, -, hsettles⟩ :=
      hlisted .standard "eve" ⟨7, 100⟩ ⟨500, 50, 0o100644⟩ rfl rfl
    rw [hsettles hnaming, Query.settle_of_permits rfl hmode]
  · exact ((hload _).mp (iff_of_true hfalls hbare)).2 hbare
  · obtain ⟨-, hfails, -⟩ := hunlisted .standard "eve" ⟨7, 100⟩ ⟨500, 50, 0o100644⟩ rfl rfl
    exact hfails _ hbare

end Live

end ReadAccess
