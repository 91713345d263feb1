/-
  How a query ends, and whom it asks.

  `eager` is the decision made with everything at hand: it names the first
  failure of the user, the metadata and the list, then a tag without meaning,
  and else one condition on all entries (or on the mode).  A query that puts off
  the groups for as long as it can ends in the same way (`run_ending_eq_eager`).
-/
import ReadAccess.Proofs.Grants
import ReadAccess.Query

set_option autoImplicit false

namespace ReadAccess

/-- What a sequence leaves on its trace, seen through `f`: nothing follows an
error. -/
theorem Traced.filterMap_bind {τ ε α β γ : Type} (f : τ → Option γ) (x : Traced τ ε α)
    (g : α → Traced τ ε β) :
    (x >>= g).trace.filterMap f =
      x.trace.filterMap f ++
        match x.ending with
        | .error _ => []
        | .ok a => (g a).trace.filterMap f := by
  cases h : x.ending with
  | error e => rw [Traced.bind_of_error h]; simp
  | ok a => rw [Traced.bind_of_value h]; simp

namespace Course

variable {α β : Type}

/-! ## Questions of a course -/

theorem questions_bind (x : Course α) (f : α → Course β) :
    questions (x >>= f) =
      x.questions ++
        match x.ending with
        | .error _ => []
        | .ok a => (f a).questions := by
  rw [questions, Traced.filterMap_bind]
  cases x.ending <;> rfl

/-- A course whose continuation asks nothing asks what its first part does. -/
theorem questions_bind_of_silent (x : Course α) {f : α → Course β}
    (h : ∀ a, (f a).questions = []) : questions (x >>= f) = x.questions := by
  rw [questions_bind]
  cases x.ending with
  | error e => exact List.append_nil _
  | ok a => simp [h a]

/-- The questions of the steps that come before a course come before its own. -/
theorem questions_after (steps : List Step) (x : Course α) :
    questions (x.after steps) = steps.filterMap Step.question? ++ x.questions :=
  List.filterMap_append

@[simp] theorem questions_pure (a : α) : questions (pure a : Course α) = [] := rfl

@[simp] theorem questions_ask (q : Consultation) (answer : Answer α) :
    questions (Query.ask q answer) = [q] := by
  simp [questions, Query.ask, Traced.expand, Step.question?, List.filterMap_flatMap]

@[simp] theorem questions_report (x : Traced Event AccessError α) :
    questions (Query.report x) = [] := by
  simp [questions, Query.report, Traced.expand, Step.question?, List.filterMap_flatMap]

@[simp] theorem questions_emit (e : Event) : questions (Query.emit e) = [] := rfl

/-- A course asks for the groups of a user. -/
def ListsGroups (x : Course α) : Prop :=
  ∃ user gid, Consultation.resolveGroups user gid ∈ x.questions

/-! ## Events of a course -/

theorem events_bind (x : Course α) (f : α → Course β) :
    events (x >>= f) =
      x.events ++
        match x.ending with
        | .error _ => []
        | .ok a => (f a).events := by
  rw [events, Traced.filterMap_bind]
  cases x.ending <;> rfl

@[simp] theorem events_pure (a : α) : events (pure a : Course α) = [] := rfl

@[simp] theorem events_ask (q : Consultation) (answer : Answer α) :
    events (Query.ask q answer) = [] := by
  simp only [events, Query.ask, Traced.expand, Traced.after_trace, List.filterMap_append,
    List.filterMap_flatMap]
  simp [Step.event?]

@[simp] theorem events_report (x : Traced Event AccessError α) :
    events (Query.report x) = x.trace := by
  simp [events, Query.report, Traced.expand, Step.event?, List.filterMap_flatMap]

@[simp] theorem events_emit (e : Event) : events (Query.emit e) = [e] := rfl

/-- An event of a sequence is one of its first part or of what follows. -/
theorem notMem_events_bind {e : Event} {x : Course α} {f : α → Course β} (hx : e ∉ x.events)
    (hf : ∀ a, x.ending = .ok a → e ∉ (f a).events) : e ∉ events (x >>= f) := by
  rw [events_bind, List.mem_append, not_or]
  refine ⟨hx, ?_⟩
  cases h : x.ending with
  | error failure => exact List.not_mem_nil
  | ok a => exact hf a h

end Course

namespace Query

/-! ## Endings of the parts of a query -/

@[simp] theorem ask_ending {α : Type} (q : Consultation) (answer : Answer α) :
    (ask q answer).ending = answer.ending := rfl

@[simp] theorem emit_ending (e : Event) : (emit e).ending = .ok ⟨⟩ := rfl

@[simp] theorem report_ending {α : Type} (x : Traced Event AccessError α) :
    (report x).ending = x.ending.mapError .error := by
  cases h : x.ending <;> simp only [report, Traced.mapError, Traced.expand_ending, h] <;> rfl

theorem groupsOf_ending (c : Collaborators) (user : String) (record : UserRecord) :
    (groupsOf c user record).ending = (c.resolveGroups user record.primaryGid).ending := by
  simp only [groupsOf_eq, Traced.bind_ending, ask_ending, emit_ending]
  cases (c.resolveGroups user record.primaryGid).ending <;> rfl

theorem questions_groupsOf (c : Collaborators) (user : String) (record : UserRecord) :
    (groupsOf c user record).questions = [.resolveGroups user record.primaryGid] := by
  simp only [groupsOf_eq, Course.questions_bind, Course.questions_ask, ask_ending]
  cases (c.resolveGroups user record.primaryGid).ending <;> simp

/-! ## The decision with everything at hand -/

/-- The decision on what was loaded, when the answer about the groups is at hand
as well.  A tag without meaning comes first.  An answer that is a failure does
not matter if reading is permitted to the user alone. -/
def settle (path : Path) (m : Metadata) (uid : Uid) (load : AclLoad)
    (groups : Except Failure GroupList) : Except Failure Verdict :=
  match load.firstUnknown?, groups with
  | some raw, _ => .error (.error (.malformedAcl path (.unknownTag raw)))
  | none, .ok groups => .ok (.ofBool (decide (load.PermitsMember m uid groups)))
  | none, .error failure =>
      if load.Permits m (.user uid) then .ok .allowed else .error failure

/-- The decision with all answers at hand: the first failure of user, metadata
and list, and otherwise what follows from the answers. -/
def eager (c : Collaborators) (user : String) (path : Path) : Except Failure Verdict :=
  match (c.resolveUser user).ending with
  | .error failure => .error failure
  | .ok record =>
      match (c.probe path).ending with
      | .error failure => .error failure
      | .ok m =>
          match (c.loadAcl path m).ending with
          | .error failure => .error failure
          | .ok load =>
              settle path m record.uid load (c.resolveGroups user record.primaryGid).ending

section Settle

variable {path : Path} {m : Metadata} {uid : Uid} {load : AclLoad}
  {groups : Except Failure GroupList}

theorem settle_of_unknown {raw : UInt16} (h : load.firstUnknown? = some raw) :
    settle path m uid load groups = .error (.error (.malformedAcl path (.unknownTag raw))) := by
  simp only [settle, h]

/-- What is permitted to the user alone is permitted whatever the groups are. -/
theorem settle_of_permits (h : load.firstUnknown? = none) (hp : load.Permits m (.user uid)) :
    settle path m uid load groups = .ok .allowed := by
  cases groups with
  | error failure => simp only [settle, h, if_pos hp]
  | ok groups =>
      have hmember : load.PermitsMember m uid groups := AclLoad.permitsMember_iff.mpr (.inl hp)
      simp [settle, h, hmember]

theorem settle_of_not_permits (h : load.firstUnknown? = none)
    (hp : ¬ load.Permits m (.user uid)) :
    settle path m uid load groups =
      groups.bind fun groups => .ok (.ofBool (decide (load.Permits m (.group groups)))) := by
  cases groups with
  | error failure => simp only [settle, h, if_neg hp, Except.bind]
  | ok groups =>
      have hmember : load.PermitsMember m uid groups ↔ load.Permits m (.group groups) := by
        rw [AclLoad.permitsMember_iff, or_iff_right hp]
      simp only [settle, h, Except.bind, hmember]

end Settle

/-! ## What follows the pass for the user alone -/

variable (c : Collaborators) (user : String) (path : Path) (record : UserRecord) (m : Metadata)

/-- Mode bits that let the user alone read end the query. -/
theorem byMode_of_permits (h : ModeBits.Permits m (.user record.uid)) :
    byMode c user record m =
      ⟨.event .aclUnsupported :: (report (ModeBits.pass m (.user record.uid))).trace,
        .ok .allowed⟩ := by
  have hpass : (report (ModeBits.pass m (.user record.uid))).ending = .ok .allowed := by
    rw [report_ending, ModeBits.pass_ending, Verdict.ofBool_eq_allowed_iff.mpr (decide_eq_true h)]
    rfl
  rw [byMode_eq, emit, Traced.tell_bind, Traced.bind_of_value hpass]
  simp

/-- Otherwise the groups are listed, and the pass for them has the last word. -/
theorem byMode_of_not_permits (h : ¬ ModeBits.Permits m (.user record.uid)) :
    byMode c user record m =
      (groupsOf c user record >>= fun groups =>
        report (ModeBits.pass m (.group groups))).after
          (.event .aclUnsupported :: (report (ModeBits.pass m (.user record.uid))).trace) := by
  have hpass : (report (ModeBits.pass m (.user record.uid))).ending = .ok .denied := by
    rw [report_ending, ModeBits.pass_ending, Verdict.ofBool_eq_denied_iff.mpr (decide_eq_false h)]
    rfl
  rw [byMode_eq, emit, Traced.tell_bind, Traced.bind_of_value hpass]
  rfl

variable {acl : Acl}

theorem byLoad_of_unknown {raw : UInt16} (h : acl.firstUnknown? = some raw) :
    byLoad c user path record m (.entries acl) =
      ⟨(report ((AclLoad.entries acl).pass path m (.user record.uid))).trace,
        .error (.error (.malformedAcl path (.unknownTag raw)))⟩ := by
  have hpass : (report ((AclLoad.entries acl).pass path m (.user record.uid))).ending =
      .error (.error (.malformedAcl path (.unknownTag raw))) := by
    rw [report_ending, AclLoad.pass_entries_ending, h]
    rfl
  rw [byLoad_eq, Traced.bind_of_error hpass]

/-- A list that lets the user alone read ends the query. -/
theorem byLoad_of_permits (h : acl.firstUnknown? = none) (hp : acl.Permits m (.user record.uid)) :
    byLoad c user path record m (.entries acl) =
      ⟨(report ((AclLoad.entries acl).pass path m (.user record.uid))).trace, .ok .allowed⟩ := by
  have hpass : (report ((AclLoad.entries acl).pass path m (.user record.uid))).ending =
      .ok .allowed := by
    rw [report_ending, AclLoad.pass_entries_ending, h,
      Verdict.ofBool_eq_allowed_iff.mpr (decide_eq_true hp)]
    rfl
  rw [byLoad_eq, Traced.bind_of_value hpass]
  simp

/-- Otherwise the groups are listed, and the pass for them has the last word. -/
theorem byLoad_of_not_permits (h : acl.firstUnknown? = none)
    (hp : ¬ acl.Permits m (.user record.uid)) :
    byLoad c user path record m (.entries acl) =
      (groupsOf c user record >>= fun groups =>
        report ((AclLoad.entries acl).pass path m (.group groups)) >>= fun outcome =>
          pure (.ofBool (outcome == .allowed))).after
            (report ((AclLoad.entries acl).pass path m (.user record.uid))).trace := by
  have hpass : (report ((AclLoad.entries acl).pass path m (.user record.uid))).ending =
      .ok .denied := by
    rw [report_ending, AclLoad.pass_entries_ending, h,
      Verdict.ofBool_eq_denied_iff.mpr (decide_eq_false hp)]
    rfl
  rw [byLoad_eq, Traced.bind_of_value hpass]
  rfl

/-! ## Lazy and eager decisions agree -/

theorem byMode_ending :
    (byMode c user record m).ending =
      settle path m record.uid .unsupported (c.resolveGroups user record.primaryGid).ending := by
  have hnone : AclLoad.unsupported.firstUnknown? = none := rfl
  by_cases hp : AclLoad.unsupported.Permits m (.user record.uid)
  · rw [settle_of_permits hnone hp, byMode_of_permits c user record m hp]
  · rw [settle_of_not_permits hnone hp, byMode_of_not_permits c user record m hp]
    simp only [Traced.after_ending, Traced.bind_ending, groupsOf_ending, report_ending,
      ModeBits.pass_ending]
    rfl

theorem ofBool_ofVerdict (v : Verdict) : Verdict.ofBool (Outcome.ofVerdict v == .allowed) = v := by
  cases v <;> rfl

/-- The decision on what was loaded ends as the eager one. -/
theorem byLoad_ending (load : AclLoad) :
    (byLoad c user path record m load).ending =
      settle path m record.uid load (c.resolveGroups user record.primaryGid).ending := by
  cases load with
  | unsupported => exact byMode_ending c user path record m
  | entries acl =>
      cases h : acl.firstUnknown? with
      | some raw =>
          have hload : (AclLoad.entries acl).firstUnknown? = some raw := h
          rw [byLoad_of_unknown c user path record m h, settle_of_unknown hload]
      | none =>
          have hload : (AclLoad.entries acl).firstUnknown? = none := h
          -- Without permission in the first pass the groups decide, and so does `settle`.
          by_cases hp : (AclLoad.entries acl).Permits m (.user record.uid)
          · rw [byLoad_of_permits c user path record m h hp, settle_of_permits hload hp]
          · rw [byLoad_of_not_permits c user path record m h hp, settle_of_not_permits hload hp]
            simp only [Traced.after_ending, Traced.bind_ending, groupsOf_ending, report_ending,
              AclLoad.pass_entries_ending, h]
            refine congrArg _ (funext fun groups => ?_)
            exact congrArg Except.ok (ofBool_ofVerdict _)

/-- The mode bits take a question about the groups exactly if they do not let the
user alone read. -/
theorem questions_byMode :
    (byMode c user record m).questions =
      if ModeBits.Permits m (.user record.uid) then []
      else [.resolveGroups user record.primaryGid] := by
  have hreport := Course.questions_report (ModeBits.pass m (.user record.uid))
  split
  · next hp =>
    rw [byMode_of_permits c user record m hp]
    exact hreport
  · next hp =>
    have hfirst : (Step.event .aclUnsupported ::
        (report (ModeBits.pass m (.user record.uid))).trace).filterMap Step.question? = [] :=
      hreport
    rw [byMode_of_not_permits c user record m hp, Course.questions_after, hfirst,
      Course.questions_bind_of_silent _ fun _ => Course.questions_report _, questions_groupsOf]
    rfl

/-- What was loaded takes a question about the groups exactly if it has a meaning
and does not let the user alone read. -/
theorem questions_byLoad (load : AclLoad) :
    (byLoad c user path record m load).questions =
      if load.firstUnknown? = none ∧ ¬ load.Permits m (.user record.uid) then
        [.resolveGroups user record.primaryGid]
      else [] := by
  cases load with
  | unsupported =>
      refine (questions_byMode c user record m).trans ?_
      by_cases hp : ModeBits.Permits m (.user record.uid) <;>
        simp [AclLoad.firstUnknown?, AclLoad.Permits, hp]
  | entries acl =>
      have hreport :=
        Course.questions_report ((AclLoad.entries acl).pass path m (.user record.uid))
      cases h : acl.firstUnknown? with
      | some raw =>
          rw [byLoad_of_unknown c user path record m h, if_neg (by simp [AclLoad.firstUnknown?, h])]
          exact hreport
      | none =>
          by_cases hp : acl.Permits m (.user record.uid)
          · rw [byLoad_of_permits c user path record m h hp,
              if_neg fun hnot => hnot.2 hp]
            exact hreport
          · have hfirst : (report ((AclLoad.entries acl).pass path m
                (.user record.uid))).trace.filterMap Step.question? = [] := hreport
            have hsecond : ∀ groups, Course.questions (report ((AclLoad.entries acl).pass path m
                (.group groups)) >>= fun outcome =>
                  pure (Verdict.ofBool (outcome == .allowed))) = [] := fun groups => by
              rw [Course.questions_bind_of_silent _ fun _ => Course.questions_pure _,
                Course.questions_report]
            rw [byLoad_of_not_permits c user path record m h hp, Course.questions_after, hfirst,
              Course.questions_bind_of_silent _ hsecond, questions_groupsOf, if_pos ⟨h, hp⟩]
            rfl

theorem questions_run : (run c user path).questions = (deliberate c user path).questions := by
  have hclosing : ((closing (deliberate c user path).ending).map Step.event).filterMap
      Step.question? = [] := by
    simp [List.filterMap_eq_nil_iff, Step.question?]
  simp [run, Course.questions, hclosing]

theorem events_run :
    (run c user path).events =
      (deliberate c user path).events ++ closing (deliberate c user path).ending := by
  simp [run, Course.events, List.filterMap_map, Function.comp_def, Step.event?]

section Endings

variable {c user path} {failure : Failure}

theorem run_ending_of_unresolved (hresolve : (c.resolveUser user).ending = .error failure) :
    (run c user path).ending = .error failure := by
  show (deliberate c user path).ending = _
  simp only [deliberate_eq, Traced.bind_ending, ask_ending, hresolve, Except.bind]

variable {record : UserRecord} {m : Metadata}

theorem run_ending_of_unprobed (hresolve : (c.resolveUser user).ending = .ok record)
    (hprobe : (c.probe path).ending = .error failure) :
    (run c user path).ending = .error failure := by
  show (deliberate c user path).ending = _
  simp only [deliberate_eq, Traced.bind_ending, ask_ending, emit_ending, hresolve, hprobe,
    Except.bind]

/-- Once the user and the file are found, a query ends as what was loaded settles
it. -/
theorem run_ending_of_probed (hresolve : (c.resolveUser user).ending = .ok record)
    (hprobe : (c.probe path).ending = .ok m) :
    (run c user path).ending =
      (c.loadAcl path m).ending.bind fun load =>
        settle path m record.uid load (c.resolveGroups user record.primaryGid).ending := by
  show (deliberate c user path).ending = _
  simp only [deliberate_eq, Traced.bind_ending, ask_ending, emit_ending, byLoad_ending, hresolve,
    hprobe, Except.bind]

variable {load : AclLoad}

theorem questions_run_of_loaded (hresolve : (c.resolveUser user).ending = .ok record)
    (hprobe : (c.probe path).ending = .ok m) (hload : (c.loadAcl path m).ending = .ok load) :
    (run c user path).questions =
      [.resolveUser user, .probe path, .loadAcl path m] ++
        (byLoad c user path record m load).questions := by
  simp [questions_run, deliberate_eq, Course.questions_bind, hresolve, hprobe, hload]

/-- Once something is loaded, a query asks for groups exactly if that has a
meaning and does not let the user alone read. -/
theorem listsGroups_iff_of_loaded (hresolve : (c.resolveUser user).ending = .ok record)
    (hprobe : (c.probe path).ending = .ok m) (hload : (c.loadAcl path m).ending = .ok load) :
    (run c user path).ListsGroups ↔
      load.firstUnknown? = none ∧ ¬ load.Permits m (.user record.uid) := by
  rw [Course.ListsGroups, questions_run_of_loaded hresolve hprobe hload, questions_byLoad]
  split
  · next hasks => simp [hasks]
  · next hsilent => simp [hsilent]

end Endings

/-- The failures come in the order of the questions. -/
theorem ending_run_eq_eager : (run c user path).ending = eager c user path := by
  cases hresolve : (c.resolveUser user).ending with
  | error failure =>
      rw [run_ending_of_unresolved hresolve]
      simp only [eager, hresolve]
  | ok record =>
      cases hprobe : (c.probe path).ending with
      | error failure =>
          rw [run_ending_of_unprobed hresolve hprobe]
          simp only [eager, hresolve, hprobe]
      | ok m =>
          rw [run_ending_of_probed hresolve hprobe]
          simp only [eager, hresolve, hprobe]
          cases (c.loadAcl path m).ending <;> rfl

section BreakingOff

variable {c user path}

theorem settle_ne_aborted {m : Metadata} {uid : Uid} {load : AclLoad}
    {groups : Except Failure GroupList} (h : groups ≠ .error .aborted) :
    settle path m uid load groups ≠ .error .aborted := by
  intro haborted
  unfold settle at haborted
  split at haborted
  · cases haborted
  · cases haborted
  · split at haborted
    · cases haborted
    · obtain rfl := Except.error.inj haborted
      exact h rfl

/-- A query breaks off only with one of its collaborators. -/
theorem run_ending_ne_aborted (hresolve : (c.resolveUser user).ending ≠ .error .aborted)
    (hprobe : (c.probe path).ending ≠ .error .aborted)
    (hload : ∀ m, (c.loadAcl path m).ending ≠ .error .aborted)
    (hgroups : ∀ gid, (c.resolveGroups user gid).ending ≠ .error .aborted) :
    (run c user path).ending ≠ .error .aborted := by
  intro haborted
  rw [ending_run_eq_eager] at haborted
  unfold eager at haborted
  split at haborted
  · next hending =>
    obtain rfl := Except.error.inj haborted
    exact hresolve hending
  · split at haborted
    · next hending =>
      obtain rfl := Except.error.inj haborted
      exact hprobe hending
    · split at haborted
      · next hending =>
        obtain rfl := Except.error.inj haborted
        exact hload _ hending
      · exact settle_ne_aborted (hgroups _) haborted

end BreakingOff

/-- **A query that puts off the groups ends as one that has everything at hand.**
A pass for groups, which is made only after a pass for the user alone, never
fails by itself: whether a pass gets to its end does not depend on the scope. -/
theorem run_ending_eq_eager :
    (run c user path).ending = eager c user path ∧
      ∀ (load : AclLoad) (m : Metadata) (scope other : Scope),
        (load.pass path m scope).ending.isOk = (load.pass path m other).ending.isOk := by
  refine ⟨ending_run_eq_eager c user path, ?_⟩
  intro load m scope other
  exact AclLoad.pass_isOk_eq load path m scope other

end Query

end ReadAccess
