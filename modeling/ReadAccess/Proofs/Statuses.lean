/-
  What the status of a run tells.

  Of the statuses that apply the greatest counts.  The statuses of verdicts are below
  that of a rejected command line and those of failures above it, so the greatest of
  several tells whether something failed and, if nothing did, whether something is
  denied (`Status.tells_greatest`).  No accepted command line comes to the status of a
  rejected one (`carryOut_isOfAccepted`).
-/
import Mathlib.Data.List.MinMax
import Mathlib.Data.List.Perm.Basic
import Mathlib.Order.Nat
import ReadAccess.Proofs.RunResults

set_option autoImplicit false

namespace ReadAccess.CommandLine

open Text (RawText)

namespace Status

/-! ## The greatest of several -/

/-- What several statuses come to: the greatest of them. -/
def greatest (statuses : List Status) : Status := statuses.foldr max allowed

theorem greatest_cons (s : Status) (rest : List Status) :
    greatest (s :: rest) = max s (greatest rest) := rfl

theorem greatest_append (first second : List Status) :
    greatest (first ++ second) = max (greatest first) (greatest second) := by
  induction first with
  | nil => exact (Nat.zero_max _).symm
  | cons s rest ih => rw [List.cons_append, greatest_cons, greatest_cons, ih, Nat.max_assoc]

/-- The order of statuses does not matter. -/
theorem greatest_perm {statuses others : List Status} (h : statuses.Perm others) :
    greatest statuses = greatest others := h.foldr_eq allowed

theorem le_greatest {s : Status} {statuses : List Status} (h : s ∈ statuses) :
    s ≤ greatest statuses := List.le_max_of_le h (Nat.le_refl s)

/-- Several statuses come to one of them, or to the least status. -/
theorem greatest_eq_allowed_or_mem (statuses : List Status) :
    greatest statuses = allowed ∨ greatest statuses ∈ statuses := by
  induction statuses with
  | nil => exact .inl rfl
  | cons s rest ih =>
      rw [greatest_cons]
      rcases max_choice s (greatest rest) with hs | hrest
      · rw [hs]
        exact .inr List.mem_cons_self
      · rw [hrest]
        exact ih.imp_right (List.mem_cons_of_mem s)

/-! ## Statuses of queries -/

/-- What a query adds to the status of a run; a query that broke off adds nothing. -/
def ofEnding? : Except Failure Verdict → Option Status
  | .ok verdict => some (ofVerdict verdict)
  | .error (.error e) => some (ofKind e.kind)
  | .error .aborted => none

/-- What the queries about the paths add to the status of a run. -/
def contributions (ending : Path → Except Failure Verdict) (paths : List Path) : List Status :=
  paths.filterMap fun path => ofEnding? (ending path)

/-- What the status of a run tells about how the queries about its paths ended. -/
structure Tells (ending : Path → Except Failure Verdict) (paths : List Path) (status : Status) :
    Prop where
  /-- The least status: every path is allowed. -/
  allowed : status = Status.allowed ↔ ∀ path ∈ paths, ending path = .ok .allowed
  /-- The next one: every query has a verdict, and some path is denied. -/
  denied : status = Status.denied ↔
    (∀ path ∈ paths, ∃ verdict, ending path = .ok verdict) ∧
      ∃ path ∈ paths, ending path = .ok .denied
  /-- If a query failed, the status is that of a failure, and of no lesser one. -/
  failed : ∀ path ∈ paths, ∀ e, ending path = .error (.error e) →
    ofKind e.kind ≤ status ∧
      ∃ other ∈ paths, ∃ e', ending other = .error (.error e') ∧ status = ofKind e'.kind

variable {ending : Path → Except Failure Verdict} {paths : List Path} {path : Path}

theorem contributions_append (ending : Path → Except Failure Verdict) (ps qs : List Path) :
    contributions ending (ps ++ qs) = contributions ending ps ++ contributions ending qs :=
  List.filterMap_append

theorem contributions_cons {rest : List Path} {s : Status} (h : ofEnding? (ending path) = some s) :
    contributions ending (path :: rest) = s :: contributions ending rest :=
  List.filterMap_cons_some h

theorem le_of_verdict (hpath : path ∈ paths) {v : Verdict} (hv : ending path = .ok v) :
    ofVerdict v ≤ greatest (contributions ending paths) := by
  apply le_greatest
  refine List.mem_filterMap.mpr ⟨path, hpath, ?_⟩
  rw [hv]
  rfl

theorem le_of_error (hpath : path ∈ paths) {e : AccessError}
    (he : ending path = .error (.error e)) :
    ofKind e.kind ≤ greatest (contributions ending paths) := by
  apply le_greatest
  refine List.mem_filterMap.mpr ⟨path, hpath, ?_⟩
  rw [he]
  rfl

/-- A status other than the least one is that of a verdict or of a failure. -/
theorem exists_of_greatest_ne (hne : greatest (contributions ending paths) ≠ allowed) :
    ∃ path ∈ paths,
      (∃ v, ending path = .ok v ∧ greatest (contributions ending paths) = ofVerdict v) ∨
        ∃ e, ending path = .error (.error e) ∧
          greatest (contributions ending paths) = ofKind e.kind := by
  have hmem := (greatest_eq_allowed_or_mem (contributions ending paths)).resolve_left hne
  obtain ⟨path, hpath, hadds⟩ := List.mem_filterMap.mp hmem
  refine ⟨path, hpath, ?_⟩
  cases hending : ending path with
  | ok v =>
      rw [hending] at hadds
      exact .inl ⟨v, rfl, (Option.some.inj hadds).symm⟩
  | error failure =>
      rw [hending] at hadds
      cases failure with
      | error e => exact .inr ⟨e, rfl, (Option.some.inj hadds).symm⟩
      | aborted => cases hadds

/-- A status below that of a rejected command line rules failures out. -/
theorem exists_verdict_of_lt_usage (hunbroken : ∀ path ∈ paths, ending path ≠ .error .aborted)
    (hlt : greatest (contributions ending paths) < usage) (hpath : path ∈ paths) :
    ∃ v, ending path = .ok v := by
  cases hending : ending path with
  | ok v => exact ⟨v, rfl⟩
  | error failure =>
      cases failure with
      | aborted => exact absurd hending (hunbroken path hpath)
      | error e =>
          have hgreater := Nat.lt_of_lt_of_le (usage_lt_ofKind e.kind) (le_of_error hpath hending)
          exact absurd hgreater (Nat.lt_asymm hlt)

theorem greatest_eq_allowed_iff (hunbroken : ∀ path ∈ paths, ending path ≠ .error .aborted) :
    greatest (contributions ending paths) = allowed ↔
      ∀ path ∈ paths, ending path = .ok .allowed := by
  constructor
  · intro hleast path hpath
    have hlt : greatest (contributions ending paths) < usage := by
      rw [hleast]
      exact ofVerdict_lt_usage .allowed
    obtain ⟨v, hv⟩ := exists_verdict_of_lt_usage hunbroken hlt hpath
    have hle := le_of_verdict hpath hv
    rw [hleast] at hle
    cases v with
    | allowed => exact hv
    | denied => cases hle
  · intro hall
    by_contra hne
    obtain ⟨path, hpath, ⟨v, hv, hstatus⟩ | ⟨e, he, -⟩⟩ := exists_of_greatest_ne hne
    · rw [hall path hpath] at hv
      cases hv
      exact hne hstatus
    · rw [hall path hpath] at he
      cases he

theorem greatest_eq_denied_iff (hunbroken : ∀ path ∈ paths, ending path ≠ .error .aborted) :
    greatest (contributions ending paths) = denied ↔
      (∀ path ∈ paths, ∃ verdict, ending path = .ok verdict) ∧
        ∃ path ∈ paths, ending path = .ok .denied := by
  constructor
  · intro hdenied
    have hlt : greatest (contributions ending paths) < usage := by
      rw [hdenied]
      exact ofVerdict_lt_usage .denied
    have hall : ∀ path ∈ paths, ∃ v, ending path = .ok v :=
      fun _ hpath => exists_verdict_of_lt_usage hunbroken hlt hpath
    have hne : greatest (contributions ending paths) ≠ allowed := by
      rw [hdenied]
      exact Nat.one_ne_zero
    obtain ⟨path, hpath, ⟨v, hv, hstatus⟩ | ⟨e, he, -⟩⟩ := exists_of_greatest_ne hne
    · refine ⟨hall, path, hpath, ?_⟩
      rw [hdenied] at hstatus
      cases v with
      | allowed => cases hstatus
      | denied => exact hv
    · obtain ⟨v, hv⟩ := hall path hpath
      rw [he] at hv
      cases hv
  · rintro ⟨hall, path, hpath, hdenied⟩
    have hle := le_of_verdict hpath hdenied
    have hne : greatest (contributions ending paths) ≠ allowed := Nat.ne_of_gt hle
    obtain ⟨other, hother, ⟨v, -, hstatus⟩ | ⟨e, he, -⟩⟩ := exists_of_greatest_ne hne
    · cases v with
      | allowed => exact absurd hstatus hne
      | denied => exact hstatus
    · obtain ⟨v, hv⟩ := hall other hother
      rw [he] at hv
      cases hv

/-- **The greatest status tells how the queries ended**, if none of them broke off. -/
theorem tells_greatest (hunbroken : ∀ path ∈ paths, ending path ≠ .error .aborted) :
    Tells ending paths (greatest (contributions ending paths)) := by
  refine ⟨greatest_eq_allowed_iff hunbroken, greatest_eq_denied_iff hunbroken, ?_⟩
  intro path hpath e he
  have hle := le_of_error hpath he
  refine ⟨hle, ?_⟩
  have husage := Nat.lt_of_lt_of_le (usage_lt_ofKind e.kind) hle
  obtain ⟨other, hother, ⟨v, -, hstatus⟩ | ⟨e', he', hstatus⟩⟩ :=
    exists_of_greatest_ne (Nat.ne_of_gt (Nat.zero_lt_of_lt husage))
  · -- No verdict has a status that high.
    rw [hstatus] at husage
    exact absurd (ofVerdict_lt_usage v) (Nat.lt_asymm husage)
  · exact ⟨other, hother, e', he', hstatus⟩

/-! ## Statuses of accepted command lines -/

theorem ofKind_le_systemFailure (k : AccessError.Kind) : ofKind k ≤ systemFailure := by
  cases k <;> decide

/-- A process can report every status of the program as it is. -/
theorem toNat_exitByte {status : Status} (h : status ≤ systemFailure) :
    (exitByte status).toNat = status := by
  have hsmall : status < 255 := Nat.lt_of_le_of_lt h (by decide)
  have hlt : ¬ (255 : Int) ≤ (status : Int) := Int.not_le.mpr (Int.ofNat_lt.mpr hsmall)
  rw [exitByte, if_neg hlt, Int.toNat_natCast]
  exact Nat.mod_eq_of_lt (Nat.lt_succ_of_lt hsmall)

/-- A status that an accepted command line can come to. -/
def IsOfAccepted (status : Status) : Prop := status ≠ usage ∧ status ≤ systemFailure

theorem isOfAccepted_ofKind (k : AccessError.Kind) : (ofKind k).IsOfAccepted :=
  ⟨Nat.ne_of_gt (usage_lt_ofKind k), ofKind_le_systemFailure k⟩

theorem isOfAccepted_ofVerdict (v : Verdict) : (ofVerdict v).IsOfAccepted :=
  ⟨Nat.ne_of_lt (ofVerdict_lt_usage v),
    Nat.le_trans (Nat.le_of_lt (ofVerdict_lt_usage v)) (by decide)⟩

theorem isOfAccepted_systemFailure : systemFailure.IsOfAccepted :=
  isOfAccepted_ofKind .systemFailure

theorem IsOfAccepted.max {s t : Status} (hs : s.IsOfAccepted) (ht : t.IsOfAccepted) :
    IsOfAccepted (max s t) := by
  rcases max_choice s t with h | h
  · rw [h]
    exact hs
  · rw [h]
    exact ht

end Status

/-! ## Requests -/

namespace Request

theorem checked_operands {r checked : Request} (h : r.checked = .ok checked)
    (hpaths : checked.isInformation = false) :
    (∃ user, checked.user = some user) ∧ checked.paths ≠ [] := by
  unfold Request.checked at h
  split at h
  · next hinformation =>
    cases h
    rw [hinformation] at hpaths
    cases hpaths
  · split at h
    · cases h
    · next huser =>
      split at h
      · cases h
      · next hnonempty =>
        cases h
        refine ⟨Option.ne_none_iff_exists'.mp ?_, ?_⟩
        · simpa using huser
        · simpa using hnonempty

/-- An accepted command line that asks about files has a user and a path. -/
theorem ofArguments_operands {arguments : List RawText} {r : Request}
    (h : ofArguments arguments = .ok r) (hpaths : r.isInformation = false) :
    (∃ user, r.user = some user) ∧ r.paths ≠ [] := by
  simp only [ofArguments, bind, Except.bind] at h
  split at h
  · cases h
  · split at h
    · cases h
    · exact checked_operands h hpaths

end Request

theorem run_of_accepted (h : Host) (channels : Channels) {arguments : List RawText} {r : Request}
    (haccepted : Request.ofArguments arguments = .ok r) :
    run h channels arguments = carryOut h channels r := by
  rw [run, haccepted]

theorem run_of_rejected (h : Host) (channels : Channels) {arguments : List RawText}
    {e : UsageError} (hrejected : Request.ofArguments arguments = .error e) :
    run h channels arguments = reject channels e := by
  rw [run, hrejected]

theorem carryOut_of_paths (h : Host) (channels : Channels) {r : Request} {user : String}
    (hpaths : r.isInformation = false) (huser : r.user = some user) :
    carryOut h channels r =
      checkPaths (Live.collaborators h r.policy) user r.quiet channels .allowed r.paths := by
  obtain ⟨hhelp, hversion⟩ := Bool.or_eq_false_iff.mp hpaths
  simp [carryOut, hhelp, hversion, huser]

/-! ## Statuses of whole runs -/

open Status (IsOfAccepted)

/-- A run over paths comes to no lesser status than it has so far, and to none that an
accepted command line cannot come to. -/
theorem checkPaths_status (c : Collaborators) (user : String) (quiet : Bool)
    (channels : Channels) {before : Status} (hbefore : before.IsOfAccepted) (paths : List Path)
    {status : Status}
    (hstatus : (checkPaths c user quiet channels before paths).ending = .ok status) :
    before ≤ status ∧ status.IsOfAccepted := by
  induction paths generalizing channels before with
  | nil =>
      obtain rfl := Except.ok.inj hstatus
      unfold closingStatus
      split
      · exact ⟨Nat.le_max_left _ _, hbefore.max Status.isOfAccepted_systemFailure⟩
      · exact ⟨Nat.le_refl _, hbefore⟩
  | cons path rest ih =>
      rw [checkPaths_cons, Traced.after_ending] at hstatus
      match hending : (Query.run c user path).ending with
      | .error .aborted =>
          rw [hending] at hstatus
          cases hstatus
      | .error (.error e) =>
          have hmax := hbefore.max (Status.isOfAccepted_ofKind e.kind)
          rw [hending] at hstatus
          exact (ih _ hmax hstatus).imp_left (Nat.le_trans (Nat.le_max_left _ _))
      | .ok v =>
          have hmax := hbefore.max (Status.isOfAccepted_ofVerdict v)
          rw [hending] at hstatus
          simp only [afterQuery] at hstatus
          split at hstatus
          · exact (ih _ hmax hstatus).imp_left (Nat.le_trans (Nat.le_max_left _ _))
          · split at hstatus
            · exact (ih _ hmax hstatus).imp_left (Nat.le_trans (Nat.le_max_left _ _))
            · obtain rfl := Except.ok.inj hstatus
              exact ⟨hbefore.2, Status.isOfAccepted_systemFailure⟩

theorem inform_isOfAccepted (channels : Channels) (pieces : List String) {status : Status}
    (hstatus : (inform channels pieces).ending = .ok status) : status.IsOfAccepted := by
  obtain rfl := Except.ok.inj hstatus
  split
  · exact Status.isOfAccepted_ofVerdict .allowed
  · exact Status.isOfAccepted_systemFailure

/-- An accepted command line does not come to the status of a rejected one. -/
theorem carryOut_isOfAccepted (h : Host) (channels : Channels) {arguments : List RawText}
    {r : Request} (haccepted : Request.ofArguments arguments = .ok r) {status : Status}
    (hstatus : (carryOut h channels r).ending = .ok status) : status.IsOfAccepted := by
  cases hinformation : r.isInformation with
  | false =>
      obtain ⟨⟨user, huser⟩, -⟩ := Request.ofArguments_operands haccepted hinformation
      rw [carryOut_of_paths h channels hinformation huser] at hstatus
      exact (checkPaths_status _ _ _ _ (Status.isOfAccepted_ofVerdict .allowed) _ hstatus).2
  | true =>
      unfold carryOut at hstatus
      split at hstatus
      · exact inform_isOfAccepted channels _ hstatus
      · split at hstatus
        · exact inform_isOfAccepted channels _ hstatus
        · next hhelp hversion => simp [Request.isInformation, hhelp, hversion] at hinformation

end ReadAccess.CommandLine
