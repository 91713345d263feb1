/-
  What the events of a query say.

  A query that meets no failure reports its whole `transcript`, and any other
  query the part of it in front of the step that fails; one more event says how
  the query ended.  The events bear out the findings of each pass
  (`Justified`), and the last of these findings is the verdict
  (`Query.run_events_justified`).
-/
import ReadAccess.Proofs.Indifference
import ReadAccess.Proofs.Proceedings

set_option autoImplicit false

namespace ReadAccess

namespace Event

/-- The pass that an event belongs to. -/
def pass? : Event → Option ScopeKind
  | .aclEntry kind .. => some kind
  | .aclPass kind .. => some kind
  | .modePass kind _ => some kind
  | _ => none

/-- The verdict of a complete pass. -/
def passVerdict? : Event → Option Verdict
  | .aclPass _ hasRead masksLetRead => some (.ofBool (hasRead && masksLetRead))
  | .modePass _ verdict => some verdict
  | _ => none

/-- The event says how a query ended. -/
def IsClosing : Event → Prop
  | .finished _ | .failed _ => True
  | _ => False

/-- No pass says how a query ended. -/
theorem not_isClosing_of_pass {e : Event} {kind : ScopeKind} (h : e.pass? = some kind) :
    ¬ e.IsClosing := by
  cases e with
  | aclEntry _ _ _ _ | aclPass _ _ _ | modePass _ _ => exact id
  | userResolved _ | metadataProbed _ | aclUnsupported | groupsResolved _ | finished _
  | failed _ => cases h

end Event

/-! ## Findings that the events bear out -/

/-- The findings of every complete pass are borne out by its events about
entries: reading is granted by one of those that take part and are no masks, and
withheld by one of the masks. -/
def Justified (log : List Event) : Prop :=
  ∀ (kind : ScopeKind) (hasRead masksLetRead : Bool), .aclPass kind hasRead masksLetRead ∈ log →
    (hasRead = true ↔ ∃ tag p,
      .aclEntry kind tag p true ∈ log ∧ tag ≠ .mask ∧ p.canRead = true) ∧
    (masksLetRead = false ↔ ∃ p applies,
      .aclEntry kind .mask p applies ∈ log ∧ p.canRead = false)

/-- The two lists have no pass in common. -/
def PassesApart (log rest : List Event) : Prop :=
  ∀ e ∈ log, ∀ d ∈ rest, e.pass? = d.pass? → e.pass? = none

theorem justified_of_no_pass {log : List Event}
    (h : ∀ e ∈ log, e.passVerdict? = none) : Justified log := by
  intro kind hasRead masksLetRead hmem
  have hnone := h _ hmem
  cases hnone

/-- Events of other passes do not tell on a pass. -/
theorem Justified.append {log rest : List Event} (hlog : Justified log) (hrest : Justified rest)
    (hapart : PassesApart log rest) : Justified (log ++ rest) := by
  intro kind hasRead masksLetRead hmem
  rw [List.mem_append] at hmem
  obtain hmem | hmem := hmem
  · -- An entry of this pass is not among the rest, as the pass itself is in front.
    have hentry : ∀ tag p applies, Event.aclEntry kind tag p applies ∈ log ++ rest ↔
        Event.aclEntry kind tag p applies ∈ log := by
      intro tag p applies
      rw [List.mem_append, or_iff_left]
      intro hlater
      cases hapart _ hmem _ hlater rfl
    simp only [hentry]
    exact hlog kind hasRead masksLetRead hmem
  · have hentry : ∀ tag p applies, Event.aclEntry kind tag p applies ∈ log ++ rest ↔
        Event.aclEntry kind tag p applies ∈ rest := by
      intro tag p applies
      rw [List.mem_append, or_iff_right]
      intro hearlier
      cases hapart _ hearlier _ hmem rfl
    simp only [hentry]
    exact hrest kind hasRead masksLetRead hmem

/-! ## One pass -/

namespace Acl

variable {m : Metadata} {scope : Scope} {acl : Acl}

theorem mem_map_report_iff {tag : Tag} {p : Permission} {applies : Bool} {entries : List Entry}
    {kind : ScopeKind} :
    Event.aclEntry kind tag p applies ∈ entries.map (Entry.report m scope) ↔
      kind = scope.kind ∧ ⟨tag, p⟩ ∈ entries ∧
        applies = decide (tag = .mask ∨ tag.Concerns m scope) := by
  rw [List.mem_map]
  constructor
  · rintro ⟨⟨tag, p⟩, he, hreport⟩
    cases hreport
    exact ⟨rfl, he, rfl⟩
  · rintro ⟨rfl, he, rfl⟩
    exact ⟨⟨tag, p⟩, he, rfl⟩

theorem justified_passReport (m : Metadata) (scope : Scope) (acl : Acl) :
    Justified ((AclLoad.entries acl).passReport m scope) := by
  intro kind hasRead masksLetRead hmem
  have hentry : ∀ tag p applies,
      Event.aclEntry kind tag p applies ∈ (AclLoad.entries acl).passReport m scope ↔
        Event.aclEntry kind tag p applies ∈ acl.entries.map (Entry.report m scope) := by
    intro tag p applies
    simp [AclLoad.passReport, findings]
  -- Only the last event is about findings.
  have hfindings : Event.aclPass kind hasRead masksLetRead = acl.findings m scope := by
    obtain hreport | hlast := List.mem_append.mp hmem
    · obtain ⟨e, -, he⟩ := List.mem_map.mp hreport
      cases he
    · exact List.mem_singleton.mp hlast
  cases hfindings
  simp only [hentry, mem_map_report_iff, List.any_eq_true, List.all_eq_false, true_and,
    decide_eq_true_iff]
  constructor
  · constructor
    · rintro ⟨⟨tag, p⟩, he, hread, hconcerns⟩
      refine ⟨tag, p, ⟨he, ?_⟩, Tag.ne_mask_of_concerns hconcerns, hread⟩
      rw [eq_comm, decide_eq_true_iff]
      exact .inr hconcerns
    · rintro ⟨tag, p, ⟨he, happlies⟩, hmask, hread⟩
      rw [eq_comm, decide_eq_true_iff, or_iff_right hmask] at happlies
      exact ⟨⟨tag, p⟩, he, hread, happlies⟩
  · constructor
    · rintro ⟨⟨tag, p⟩, he, hwithholds⟩
      have hmask : tag = .mask ∧ p.canRead = false := by
        simpa [Entry.LetsRead] using hwithholds
      obtain ⟨rfl, hread⟩ := hmask
      exact ⟨p, _, ⟨he, rfl⟩, hread⟩
    · rintro ⟨p, applies, ⟨he, -⟩, hread⟩
      exact ⟨⟨.mask, p⟩, he, by simp [Entry.LetsRead, hread]⟩

end Acl

namespace AclLoad

theorem justified_passReport (load : AclLoad) (m : Metadata) (scope : Scope) :
    Justified (load.passReport m scope) := by
  cases load with
  | entries acl => exact Acl.justified_passReport m scope acl
  | unsupported =>
      intro kind hasRead masksLetRead hmem
      cases List.mem_singleton.mp hmem

theorem pass?_of_mem_passReport {load : AclLoad} {m : Metadata} {scope : Scope} {e : Event}
    (h : e ∈ load.passReport m scope) : e.pass? = some scope.kind := by
  cases load with
  | unsupported =>
      obtain rfl := List.mem_singleton.mp h
      rfl
  | entries acl =>
      obtain hreport | hlast := List.mem_append.mp h
      · obtain ⟨d, -, rfl⟩ := List.mem_map.mp hreport
        rfl
      · obtain rfl := List.mem_singleton.mp hlast
        rfl

/-- A complete pass says once whether it permits reading. -/
theorem filterMap_passVerdict?_passReport (load : AclLoad) (m : Metadata) (scope : Scope) :
    (load.passReport m scope).filterMap Event.passVerdict? =
      [.ofBool (decide (load.Permits m scope))] := by
  cases load with
  | unsupported => rfl
  | entries acl =>
      have hentries : (acl.entries.map (Acl.Entry.report m scope)).filterMap
          Event.passVerdict? = [] := by
        simp [List.filterMap_eq_nil_iff, Acl.Entry.report, Event.passVerdict?]
      have hverdict : (Acl.Tally.start.over m scope acl.entries).verdict =
          .ofBool (decide (acl.Permits m scope)) := Acl.Tally.verdict_over_start
      simp only [Acl.Tally.verdict, Acl.Tally.over, Acl.Tally.start, Bool.false_or,
        Bool.true_and] at hverdict
      rw [passReport, List.filterMap_append, hentries]
      exact congrArg (fun v => [v]) hverdict

end AclLoad

namespace Query

/-! ## Whole queries -/

namespace Answers

/-- All that a query reports that is given these answers, up to the event that
says how it ended. -/
def transcript (a : Answers) : List Event :=
  heading a.record a.metadata a.load ++ a.load.passReport a.metadata (.user a.record.uid) ++
    if a.load.Permits a.metadata (.user a.record.uid) then []
    else .groupsResolved a.groups.size :: a.load.passReport a.metadata (.group a.groups)

/-- The answers are those of the collaborators, as far as these have any. -/
structure AgreesWith (a : Answers) (c : Collaborators) (user : String) (path : Path) : Prop where
  record : ∀ record, (c.resolveUser user).ending = .ok record → a.record = record
  metadata : ∀ m, (c.probe path).ending = .ok m → a.metadata = m
  load : ∀ load, (c.loadAcl path a.metadata).ending = .ok load → a.load = load
  groups : ∀ groups,
    (c.resolveGroups user a.record.primaryGid).ending = .ok groups → a.groups = groups

theorem exists_eq_of_ok {ε α : Type} (r : Except ε α) (fallback : α) :
    ∃ a, ∀ b, r = .ok b → a = b := by
  cases r with
  | error e => exact ⟨fallback, fun b h => by cases h⟩
  | ok a => exact ⟨a, fun b h => Except.ok.inj h⟩

/-- Any answers can stand for those that the collaborators do not have. -/
theorem exists_agreesWith (c : Collaborators) (user : String) (path : Path) :
    ∃ a : Answers, a.AgreesWith c user path := by
  obtain ⟨record, hrecord⟩ := exists_eq_of_ok (c.resolveUser user).ending ⟨0, 0⟩
  obtain ⟨m, hmetadata⟩ := exists_eq_of_ok (c.probe path).ending ⟨0, 0, 0⟩
  obtain ⟨load, hload⟩ := exists_eq_of_ok (c.loadAcl path m).ending .unsupported
  obtain ⟨groups, hgroups⟩ :=
    exists_eq_of_ok (c.resolveGroups user record.primaryGid).ending ⟨[]⟩
  exact ⟨⟨record, m, load, groups⟩, hrecord, hmetadata, hload, hgroups⟩

end Answers

section Ways

variable {c : Collaborators} {user : String} {path : Path} {record : UserRecord} {m : Metadata}
  {load : AclLoad} {asked : List Consultation} {told : List Event}
  {ending : Except Failure Verdict}

theorem pass?_of_mem_heading {e : Event} (h : e ∈ heading record m load) : e.pass? = none := by
  cases load with
  | entries acl =>
      simp only [heading, AclLoad.opening, List.append_nil, List.mem_cons, List.not_mem_nil,
        or_false] at h
      obtain rfl | rfl := h <;> rfl
  | unsupported =>
      simp only [heading, AclLoad.opening, List.cons_append, List.nil_append, List.mem_cons,
        List.not_mem_nil, or_false] at h
      obtain rfl | rfl | rfl := h <;> rfl

/-! ### The events and the answers -/

theorem Answers.AgreesWith.of_loads {a : Answers} (ha : a.AgreesWith c user path)
    (h : Loads c user path record m load) :
    a.record = record ∧ a.metadata = m ∧ a.load = load := by
  have hrecord := ha.record record h.resolves
  have hmetadata := ha.metadata m h.probes
  refine ⟨hrecord, hmetadata, ha.load load ?_⟩
  rw [hmetadata]
  exact h.loads

/-- A query reports a part of the transcript. -/
theorem Proceeds.isPrefix (h : Proceeds c user path asked told ending) {a : Answers}
    (ha : a.AgreesWith c user path) : told <+: a.transcript := by
  obtain ⟨record, m, load, groups⟩ := a
  cases h with
  | unresolved hresolve => exact List.nil_prefix
  | unprobed hresolve hprobe =>
      obtain rfl := ha.record _ hresolve
      exact ⟨_, rfl⟩
  | unloaded hresolve hprobe hload =>
      obtain rfl := ha.record _ hresolve
      obtain rfl := ha.metadata _ hprobe
      exact ⟨_, rfl⟩
  | @malformed _ _ acl _ hloads hunknown =>
      obtain ⟨rfl, rfl, rfl⟩ := ha.of_loads hloads
      have hknown : acl.known <+: acl.entries := List.takeWhile_prefix _
      have hreports := hknown.map (Acl.Entry.report m (.user record.uid))
      have hpass : acl.known.map (Acl.Entry.report m (.user record.uid)) <+:
          (AclLoad.entries acl).passReport m (.user record.uid) :=
        hreports.trans (List.prefix_append _ _)
      exact ((List.prefix_append_right_inj _).mpr hpass).trans (List.prefix_append _ _)
  | permitted hloads hknown hpermits =>
      obtain ⟨rfl, rfl, rfl⟩ := ha.of_loads hloads
      exact List.prefix_append _ _
  | unlisted hloads hknown hdenied hgroups =>
      obtain ⟨rfl, rfl, rfl⟩ := ha.of_loads hloads
      exact List.prefix_append _ _
  | listed hloads hknown hdenied hgroups =>
      obtain ⟨rfl, rfl, rfl⟩ := ha.of_loads hloads
      obtain rfl := ha.groups _ hgroups
      rewrite [Answers.transcript, if_neg hdenied]
      exact List.prefix_rfl

/-- A query with a verdict reports the whole transcript. -/
theorem Proceeds.eq_transcript {v : Verdict} (h : Proceeds c user path asked told (.ok v))
    {a : Answers} (ha : a.AgreesWith c user path) : told = a.transcript := by
  obtain ⟨record, m, load, groups⟩ := a
  cases h with
  | permitted hloads hknown hpermits =>
      obtain ⟨rfl, rfl, rfl⟩ := ha.of_loads hloads
      rw [Answers.transcript, if_pos hpermits, List.append_nil]
  | listed hloads hknown hdenied hgroups =>
      obtain ⟨rfl, rfl, rfl⟩ := ha.of_loads hloads
      obtain rfl := ha.groups _ hgroups
      rw [Answers.transcript, if_neg hdenied]

/-! ### The events and the verdict -/

theorem justified_heading_append (record : UserRecord) {m : Metadata} {load : AclLoad}
    {log : List Event} (h : Justified log) : Justified (heading record m load ++ log) := by
  refine Justified.append (justified_of_no_pass fun e he => ?_) h fun e he _ _ _ =>
    pass?_of_mem_heading he
  have hpass := pass?_of_mem_heading he
  cases e with
  | aclEntry _ _ _ _ | aclPass _ _ _ | modePass _ _ => cases hpass
  | _ => rfl

/-- The passes of the two scopes are apart, and so are their findings. -/
theorem justified_passReports (load : AclLoad) (m : Metadata) (uid : Uid) (groups : GroupList) :
    Justified (load.passReport m (.user uid) ++
      .groupsResolved groups.size :: load.passReport m (.group groups)) := by
  have hgroups : Justified
      ([.groupsResolved groups.size] ++ load.passReport m (.group groups)) := by
    refine Justified.append (justified_of_no_pass fun e he => ?_)
      (load.justified_passReport m (.group groups)) fun e he _ _ _ => ?_
    all_goals
      obtain rfl := List.mem_singleton.mp he
      rfl
  refine Justified.append (load.justified_passReport m (.user uid)) hgroups ?_
  intro e he d hd hsame
  rw [AclLoad.pass?_of_mem_passReport he] at hsame
  obtain rfl | hd := List.mem_cons.mp hd
  · cases hsame
  · rw [AclLoad.pass?_of_mem_passReport hd] at hsame
    cases hsame

theorem Proceeds.justified (h : Proceeds c user path asked told ending) : Justified told := by
  cases h with
  | unresolved hresolve => exact justified_of_no_pass (by simp)
  | unprobed hresolve hprobe => exact justified_of_no_pass (by simp [Event.passVerdict?])
  | unloaded hresolve hprobe hload => exact justified_of_no_pass (by simp [Event.passVerdict?])
  | malformed hloads hunknown =>
      refine justified_of_no_pass ?_
      simp [Event.passVerdict?, Acl.Entry.report]
  | permitted hloads hknown hpermits =>
      exact justified_heading_append _ (AclLoad.justified_passReport _ _ _)
  | unlisted hloads hknown hdenied hgroups =>
      exact justified_heading_append _ (AclLoad.justified_passReport _ _ _)
  | listed hloads hknown hdenied hgroups =>
      rw [List.append_assoc]
      exact justified_heading_append _ (justified_passReports _ _ _ _)

theorem filterMap_passVerdict?_heading :
    (heading record m load).filterMap Event.passVerdict? = [] := by
  cases load <;> rfl

/-- The verdict is that of the last pass. -/
theorem Proceeds.getLast?_passVerdict? {v : Verdict}
    (h : Proceeds c user path asked told (.ok v)) :
    (told.filterMap Event.passVerdict?).getLast? = some v := by
  cases h with
  | permitted hloads hknown hpermits =>
      rw [List.filterMap_append, filterMap_passVerdict?_heading,
        AclLoad.filterMap_passVerdict?_passReport, decide_eq_true hpermits]
      rfl
  | listed hloads hknown hdenied hgroups =>
      rw [List.filterMap_append, List.filterMap_append, filterMap_passVerdict?_heading,
        List.filterMap_cons_none (by rfl), AclLoad.filterMap_passVerdict?_passReport,
        AclLoad.filterMap_passVerdict?_passReport]
      rfl

/-! ### The last event -/

theorem not_isClosing_of_mem_heading {e : Event} (h : e ∈ heading record m load) :
    ¬ e.IsClosing := by
  have hfalse : ∀ e ∈ heading record m load, e.IsClosing → False := by
    cases load <;> simp [heading, AclLoad.opening, Event.IsClosing]
  exact hfalse e h

theorem not_isClosing_of_mem_passReport {scope : Scope} {e : Event}
    (h : e ∈ load.passReport m scope) : ¬ e.IsClosing :=
  Event.not_isClosing_of_pass (AclLoad.pass?_of_mem_passReport h)

/-- What a query reports before it ends does not say how it ends. -/
theorem Proceeds.not_isClosing (h : Proceeds c user path asked told ending) :
    ∀ e ∈ told, ¬ e.IsClosing := by
  cases h with
  | unresolved hresolve => simp
  | unprobed hresolve hprobe => simp [Event.IsClosing]
  | unloaded hresolve hprobe hload => simp [Event.IsClosing]
  | malformed hloads hunknown => simp [Event.IsClosing, Acl.Entry.report]
  | permitted hloads hknown hpermits =>
      intro e he
      obtain he | he := List.mem_append.mp he
      · exact not_isClosing_of_mem_heading he
      · exact not_isClosing_of_mem_passReport he
  | unlisted hloads hknown hdenied hgroups =>
      intro e he
      obtain he | he := List.mem_append.mp he
      · exact not_isClosing_of_mem_heading he
      · exact not_isClosing_of_mem_passReport he
  | listed hloads hknown hdenied hgroups =>
      intro e he
      obtain he | he := List.mem_append.mp he
      · obtain he | he := List.mem_append.mp he
        · exact not_isClosing_of_mem_heading he
        · exact not_isClosing_of_mem_passReport he
      · obtain rfl | he := List.mem_cons.mp he
        · exact id
        · exact not_isClosing_of_mem_passReport he

theorem getLast?_append_closing {e : Event} (hclosing : e.IsClosing)
    (htold : ∀ e ∈ told, ¬ e.IsClosing) :
    (told ++ closing ending).getLast? = some e ↔ closing ending = [e] := by
  have hlast : ∀ d, (told ++ [d]).getLast? = some e ↔ [d] = [e] := by
    intro d
    rw [List.getLast?_concat, Option.some.injEq, List.cons.injEq, and_iff_left rfl]
  cases ending with
  | ok v => exact hlast _
  | error failure =>
      cases failure with
      | error e => exact hlast _
      | aborted =>
          -- Nothing says how a query ended that broke off.
          rw [closing, List.append_nil]
          refine iff_of_false (fun h => ?_) (List.cons_ne_nil e []).symm
          exact htold e (List.mem_of_getLast? h) hclosing

theorem closing_eq_finished_iff {v : Verdict} :
    closing ending = [.finished v] ↔ ending = .ok v := by
  cases ending with
  | ok w => simp [closing]
  | error failure => cases failure <;> simp [closing]

theorem closing_eq_failed_iff {kind : AccessError.Kind} :
    closing ending = [.failed kind] ↔ ∃ e, ending = .error (.error e) ∧ e.kind = kind := by
  cases ending with
  | ok w => simp [closing]
  | error failure => cases failure <;> simp [closing]

end Ways

/-- **The events of a query are well formed and bear out how it ends.**  They are
the part of its transcript in front of the step that fails, or all of it, and one
more event that says how the query ended.  The events about entries bear out the
findings of each complete pass, and the last of the findings is the verdict. -/
theorem run_events_justified (c : Collaborators) (user : String) (path : Path) :
    ∃ told : List Event,
      (run c user path).events = told ++ closing (run c user path).ending ∧
      Proceeds c user path (run c user path).questions told (run c user path).ending ∧
      (∃ a : Answers, a.AgreesWith c user path ∧ told <+: a.transcript ∧
        ∀ v, (run c user path).ending = .ok v → told = a.transcript) ∧
      (∀ e ∈ told, ¬ e.IsClosing) ∧
      (∀ v, (run c user path).events.getLast? = some (.finished v) ↔
        (run c user path).ending = .ok v) ∧
      (∀ kind, (run c user path).events.getLast? = some (.failed kind) ↔
        ∃ e, (run c user path).ending = .error (.error e) ∧ e.kind = kind) ∧
      Justified told ∧
      ∀ v, (run c user path).ending = .ok v →
        (told.filterMap Event.passVerdict?).getLast? = some v := by
  have hproceeds : Proceeds c user path (run c user path).questions
      (deliberate c user path).events (run c user path).ending := by
    rw [questions_run]
    exact deliberate_proceeds c user path
  have hevents : (run c user path).events =
      (deliberate c user path).events ++ closing (run c user path).ending :=
    events_run c user path
  have hopen := hproceeds.not_isClosing
  obtain ⟨a, ha⟩ := Answers.exists_agreesWith c user path
  refine ⟨(deliberate c user path).events, hevents, hproceeds, ⟨a, ha, hproceeds.isPrefix ha, ?_⟩,
    hopen, ?_, ?_, hproceeds.justified, ?_⟩
  · intro v hv
    rw [hv] at hproceeds
    exact hproceeds.eq_transcript ha
  · intro v
    rw [hevents, getLast?_append_closing (e := .finished v) trivial hopen,
      closing_eq_finished_iff]
  · intro kind
    rw [hevents, getLast?_append_closing (e := .failed kind) trivial hopen,
      closing_eq_failed_iff]
  · intro v hv
    rw [hv] at hproceeds
    exact hproceeds.getLast?_passVerdict?

end Query

end ReadAccess
