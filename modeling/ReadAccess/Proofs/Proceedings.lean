/-
  The ways in which a query can go.

  There are seven.  Each of the four questions can fail, a list can have a tag
  without meaning, and a pass can be the last: the one for the user alone, if it
  allows reading, and else the one for the groups.  `Query.Proceeds` says for
  each of the seven what the query asks, what it reports before it ends, and how
  it ends; every query goes in one of them (`Query.deliberate_proceeds`).
-/
import ReadAccess.Proofs.Decision
import ReadAccess.Proofs.PassReports

set_option autoImplicit false

namespace ReadAccess

/-- The events of the steps that come before a course come before its own. -/
theorem Course.events_after {α : Type} (steps : List Step) (x : Course α) :
    events (x.after steps) = steps.filterMap Step.event? ++ x.events :=
  List.filterMap_append

namespace Query

/-- The query finds the user and the file, and loads what there is as the
list. -/
structure Loads (c : Collaborators) (user : String) (path : Path) (record : UserRecord)
    (m : Metadata) (load : AclLoad) : Prop where
  resolves : (c.resolveUser user).ending = .ok record
  probes : (c.probe path).ending = .ok m
  loads : (c.loadAcl path m).ending = .ok load

/-- What a query reports in front of its first pass. -/
def heading (record : UserRecord) (m : Metadata) (load : AclLoad) : List Event :=
  [.userResolved record.uid, .metadataProbed m] ++ load.opening

/-- A query asks these questions, reports these events before it ends, and ends
in this way. -/
inductive Proceeds (c : Collaborators) (user : String) (path : Path) :
    List Consultation → List Event → Except Failure Verdict → Prop where
  /-- The user is not found. -/
  | unresolved {failure : Failure} (hresolve : (c.resolveUser user).ending = .error failure) :
      Proceeds c user path [.resolveUser user] [] (.error failure)
  /-- The file is not found. -/
  | unprobed {record : UserRecord} {failure : Failure}
      (hresolve : (c.resolveUser user).ending = .ok record)
      (hprobe : (c.probe path).ending = .error failure) :
      Proceeds c user path [.resolveUser user, .probe path] [.userResolved record.uid]
        (.error failure)
  /-- Nothing is loaded. -/
  | unloaded {record : UserRecord} {m : Metadata} {failure : Failure}
      (hresolve : (c.resolveUser user).ending = .ok record)
      (hprobe : (c.probe path).ending = .ok m)
      (hload : (c.loadAcl path m).ending = .error failure) :
      Proceeds c user path [.resolveUser user, .probe path, .loadAcl path m]
        [.userResolved record.uid, .metadataProbed m] (.error failure)
  /-- The list has a tag without meaning. -/
  | malformed {record : UserRecord} {m : Metadata} {acl : Acl} {raw : UInt16}
      (hloads : Loads c user path record m (.entries acl))
      (hunknown : acl.firstUnknown? = some raw) :
      Proceeds c user path [.resolveUser user, .probe path, .loadAcl path m]
        ([.userResolved record.uid, .metadataProbed m] ++
          acl.known.map (Acl.Entry.report m (.user record.uid)))
        (.error (.error (.malformedAcl path (.unknownTag raw))))
  /-- The user alone may read. -/
  | permitted {record : UserRecord} {m : Metadata} {load : AclLoad}
      (hloads : Loads c user path record m load) (hknown : load.firstUnknown? = none)
      (hpermits : load.Permits m (.user record.uid)) :
      Proceeds c user path [.resolveUser user, .probe path, .loadAcl path m]
        (heading record m load ++ load.passReport m (.user record.uid))
        (.ok .allowed)
  /-- The groups cannot be listed. -/
  | unlisted {record : UserRecord} {m : Metadata} {load : AclLoad} {failure : Failure}
      (hloads : Loads c user path record m load) (hknown : load.firstUnknown? = none)
      (hdenied : ¬ load.Permits m (.user record.uid))
      (hgroups : (c.resolveGroups user record.primaryGid).ending = .error failure) :
      Proceeds c user path
        [.resolveUser user, .probe path, .loadAcl path m, .resolveGroups user record.primaryGid]
        (heading record m load ++ load.passReport m (.user record.uid))
        (.error failure)
  /-- The groups have the last word. -/
  | listed {record : UserRecord} {m : Metadata} {load : AclLoad} {groups : GroupList}
      (hloads : Loads c user path record m load) (hknown : load.firstUnknown? = none)
      (hdenied : ¬ load.Permits m (.user record.uid))
      (hgroups : (c.resolveGroups user record.primaryGid).ending = .ok groups) :
      Proceeds c user path
        [.resolveUser user, .probe path, .loadAcl path m, .resolveGroups user record.primaryGid]
        (heading record m load ++ load.passReport m (.user record.uid) ++
          .groupsResolved groups.size :: load.passReport m (.group groups))
        (.ok (.ofBool (decide (load.Permits m (.group groups)))))

/-! ## What is reported once something is loaded -/

section Loaded

variable {c : Collaborators} {user : String} {path : Path} {record : UserRecord} {m : Metadata}

theorem events_byLoad_of_unknown {acl : Acl} {raw : UInt16} (h : acl.firstUnknown? = some raw) :
    (byLoad c user path record m (.entries acl)).events =
      acl.known.map (Acl.Entry.report m (.user record.uid)) := by
  have hreport := Course.events_report ((AclLoad.entries acl).pass path m (.user record.uid))
  rw [AclLoad.pass_entries_trace, Acl.pass_trace, h] at hreport
  rw [byLoad_of_unknown c user path record m h]
  exact hreport.trans (List.append_nil _)

/-- The first pass is reported whole if it gets to its end. -/
theorem events_byLoad_of_permits {load : AclLoad} (h : load.firstUnknown? = none)
    (hp : load.Permits m (.user record.uid)) :
    (byLoad c user path record m load).events =
      load.opening ++ load.passReport m (.user record.uid) := by
  cases load with
  | unsupported =>
      have hreport := Course.events_report (ModeBits.pass m (.user record.uid))
      rw [ModeBits.pass_trace] at hreport
      show (byMode c user record m).events = _
      rw [byMode_of_permits c user record m hp]
      exact congrArg (Event.aclUnsupported :: ·) hreport
  | entries acl =>
      have hreport := Course.events_report ((AclLoad.entries acl).pass path m (.user record.uid))
      rw [AclLoad.pass_entries_trace_of_known h] at hreport
      rw [byLoad_of_permits c user path record m h hp]
      exact hreport

theorem events_groupsOf_bind {α : Type} (f : GroupList → Course α) :
    (groupsOf c user record >>= f).events =
      match (c.resolveGroups user record.primaryGid).ending with
      | .error _ => []
      | .ok groups => .groupsResolved groups.size :: (f groups).events := by
  have hevents : (groupsOf c user record).events =
      match (c.resolveGroups user record.primaryGid).ending with
      | .error _ => []
      | .ok groups => [.groupsResolved groups.size] := by
    simp only [groupsOf_eq, Course.events_bind, Course.events_ask, ask_ending]
    cases (c.resolveGroups user record.primaryGid).ending with
    | error failure => rfl
    | ok groups => simp
  rw [Course.events_bind, groupsOf_ending, hevents]
  cases (c.resolveGroups user record.primaryGid).ending <;> rfl

/-- Otherwise the groups follow, and if they can be listed also the second
pass. -/
theorem events_byLoad_of_not_permits {load : AclLoad} (h : load.firstUnknown? = none)
    (hp : ¬ load.Permits m (.user record.uid)) :
    (byLoad c user path record m load).events =
      load.opening ++ load.passReport m (.user record.uid) ++
        match (c.resolveGroups user record.primaryGid).ending with
        | .error _ => []
        | .ok groups => .groupsResolved groups.size :: load.passReport m (.group groups) := by
  cases load with
  | unsupported =>
      have hreport := fun scope => Course.events_report (ModeBits.pass m scope)
      simp only [ModeBits.pass_trace] at hreport
      have hfirst : (Step.event .aclUnsupported ::
          (report (ModeBits.pass m (.user record.uid))).trace).filterMap Step.event? =
            .aclUnsupported :: AclLoad.unsupported.passReport m (.user record.uid) :=
        congrArg (Event.aclUnsupported :: ·) (hreport (.user record.uid))
      show (byMode c user record m).events = _
      rw [byMode_of_not_permits c user record m hp, Course.events_after, hfirst,
        events_groupsOf_bind]
      simp only [hreport]
      rfl
  | entries acl =>
      have hreport := fun scope =>
        Course.events_report ((AclLoad.entries acl).pass path m scope)
      simp only [AclLoad.pass_entries_trace_of_known h] at hreport
      have hfirst : (report ((AclLoad.entries acl).pass path m
          (.user record.uid))).trace.filterMap Step.event? =
            (AclLoad.entries acl).passReport m (.user record.uid) :=
        hreport (.user record.uid)
      have hsecond : ∀ groups, (report ((AclLoad.entries acl).pass path m (.group groups)) >>=
          fun outcome => pure (Verdict.ofBool (outcome == .allowed))).events =
            (AclLoad.entries acl).passReport m (.group groups) := by
        intro groups
        rw [Course.events_bind, hreport]
        cases (report ((AclLoad.entries acl).pass path m (.group groups))).ending <;> simp
      rw [byLoad_of_not_permits c user path record m h hp, Course.events_after, hfirst,
        events_groupsOf_bind]
      simp only [hsecond]
      rfl

end Loaded

/-! ## Every query goes in one of the ways -/

section Deliberation

variable {c : Collaborators} {user : String} {path : Path} {record : UserRecord} {m : Metadata}
  {load : AclLoad}

theorem questions_deliberate_of_loads (h : Loads c user path record m load) :
    (deliberate c user path).questions =
      [.resolveUser user, .probe path, .loadAcl path m] ++
        (byLoad c user path record m load).questions := by
  rw [← questions_run]
  exact questions_run_of_loaded h.resolves h.probes h.loads

theorem events_deliberate_of_loads (h : Loads c user path record m load) :
    (deliberate c user path).events =
      [.userResolved record.uid, .metadataProbed m] ++
        (byLoad c user path record m load).events := by
  simp [deliberate_eq, Course.events_bind, h.resolves, h.probes, h.loads]

theorem ending_deliberate_of_loads (h : Loads c user path record m load) :
    (deliberate c user path).ending =
      settle path m record.uid load (c.resolveGroups user record.primaryGid).ending := by
  have hrun := run_ending_of_probed h.resolves h.probes
  rw [h.loads] at hrun
  exact hrun

theorem deliberate_proceeds_of_known (h : Loads c user path record m load)
    (hknown : load.firstUnknown? = none) :
    Proceeds c user path (deliberate c user path).questions (deliberate c user path).events
      (deliberate c user path).ending := by
  rw [questions_deliberate_of_loads h, events_deliberate_of_loads h, ending_deliberate_of_loads h,
    questions_byLoad]
  by_cases hp : load.Permits m (.user record.uid)
  · rw [if_neg fun hasks => hasks.2 hp, events_byLoad_of_permits hknown hp,
      settle_of_permits hknown hp, ← List.append_assoc]
    exact .permitted h hknown hp
  · rw [if_pos ⟨hknown, hp⟩, events_byLoad_of_not_permits hknown hp,
      settle_of_not_permits hknown hp]
    cases hgroups : (c.resolveGroups user record.primaryGid).ending with
    | error failure =>
        simp only [List.append_nil, ← List.append_assoc]
        exact .unlisted h hknown hp hgroups
    | ok groups =>
        simp only [← List.append_assoc]
        exact .listed h hknown hp hgroups

/-- A query goes in one of the seven ways. -/
theorem deliberate_proceeds (c : Collaborators) (user : String) (path : Path) :
    Proceeds c user path (deliberate c user path).questions (deliberate c user path).events
      (deliberate c user path).ending := by
  -- The ways part at the first question that fails.
  cases hresolve : (c.resolveUser user).ending with
  | error failure =>
      have hending : (deliberate c user path).ending = .error failure :=
        run_ending_of_unresolved hresolve
      have hquestions : (deliberate c user path).questions = [.resolveUser user] := by
        simp [deliberate_eq, Course.questions_bind, hresolve]
      have hevents : (deliberate c user path).events = [] := by
        simp [deliberate_eq, Course.events_bind, hresolve]
      rw [hquestions, hevents, hending]
      exact .unresolved hresolve
  | ok record =>
      cases hprobe : (c.probe path).ending with
      | error failure =>
          have hending : (deliberate c user path).ending = .error failure :=
            run_ending_of_unprobed hresolve hprobe
          have hquestions : (deliberate c user path).questions =
              [.resolveUser user, .probe path] := by
            simp [deliberate_eq, Course.questions_bind, hresolve, hprobe]
          have hevents : (deliberate c user path).events = [.userResolved record.uid] := by
            simp [deliberate_eq, Course.events_bind, hresolve, hprobe]
          rw [hquestions, hevents, hending]
          exact .unprobed hresolve hprobe
      | ok m =>
          cases hload : (c.loadAcl path m).ending with
          | error failure =>
              have hending : (deliberate c user path).ending = .error failure := by
                have hrun := run_ending_of_probed hresolve hprobe
                rw [hload] at hrun
                exact hrun
              have hquestions : (deliberate c user path).questions =
                  [.resolveUser user, .probe path, .loadAcl path m] := by
                simp [deliberate_eq, Course.questions_bind, hresolve, hprobe, hload]
              have hevents : (deliberate c user path).events =
                  [.userResolved record.uid, .metadataProbed m] := by
                simp [deliberate_eq, Course.events_bind, hresolve, hprobe, hload]
              rw [hquestions, hevents, hending]
              exact .unloaded hresolve hprobe hload
          | ok load =>
              have hloads : Loads c user path record m load := ⟨hresolve, hprobe, hload⟩
              cases hunknown : load.firstUnknown? with
              | none => exact deliberate_proceeds_of_known hloads hunknown
              | some raw =>
                  cases load with
                  | unsupported => cases hunknown
                  | entries acl =>
                      rw [questions_deliberate_of_loads hloads, events_deliberate_of_loads hloads,
                        ending_deliberate_of_loads hloads, questions_byLoad,
                        if_neg fun hasks => absurd (hasks.1.symm.trans hunknown) (by simp),
                        events_byLoad_of_unknown hunknown, settle_of_unknown hunknown]
                      exact .malformed hloads hunknown

end Deliberation

end Query

end ReadAccess
