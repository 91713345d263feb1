/-
  What the sizes of group buffers may change: nothing but whether they overflow.

  On a host that is honest about its successes, whatever policy sizes the buffers,
  a query ends as with collaborators that know all memberships beforehand, or its
  listing overflows (`Live.run_ending_informed_or_overflows`).  Two policies are
  therefore compared with the informed collaborators and not with each other, and
  runs of the program in the same way (`Live.listing_ignores_policy`).
-/
import ReadAccess.Proofs.Decision
import ReadAccess.Proofs.Enumeration
import ReadAccess.Proofs.RunResults

set_option autoImplicit false

namespace ReadAccess

/-- The query fails because the groups of its user fit no buffer. -/
def Course.Overflows (x : Course Verdict) : Prop :=
  ∃ user wanted, x.ending = .error (.error (.groupListOverflow user wanted))

/-- Without an answer about the groups the decision is the one that any answer
leads to, or the failure to answer. -/
theorem Query.settle_of_failure {path : Path} {m : Metadata} {uid : Uid} {load : AclLoad}
    (failure : Failure) (groups : GroupList) :
    settle path m uid load (.error failure) = settle path m uid load (.ok groups) ∨
      settle path m uid load (.error failure) = .error failure := by
  cases hunknown : load.firstUnknown? with
  | some raw => exact .inl ((settle_of_unknown hunknown).trans (settle_of_unknown hunknown).symm)
  | none =>
      by_cases hpermits : load.Permits m (.user uid)
      · rw [settle_of_permits hunknown hpermits, settle_of_permits hunknown hpermits]
        exact .inl rfl
      · exact .inr (settle_of_not_permits hunknown hpermits)

namespace Live

open CommandLine
open Groups (Policy)

/-- Collaborators that ask the host for everything but the memberships, which they
know. -/
def informed (h : Host) : Collaborators where
  resolveUser := resolveUser h
  probe := probe h
  loadAcl := loadAcl h
  resolveGroups user gid := .value ⟨h.memberships user gid⟩

section Queries

variable {h : Host} {policy : Policy} {user : String}

theorem nul_notMem_of_resolveUser {record : UserRecord}
    (hresolve : (resolveUser h user).ending = .ok record) : '\x00' ∉ user.toList := by
  intro hnul
  have hrefused : resolveUser h user = refuse (.userNotFound user) := by
    rw [resolveUser, if_pos]
    simp [hnul]
  rw [hrefused] at hresolve
  cases hresolve

theorem run_ending_informed_or_overflows (honest : h.habit.IsHonest)
    (hinitial : policy.initial.toNat ≤ Size.countLimit) (user : String) (path : Path) :
    (Query.run (collaborators h policy) user path).ending =
        (Query.run (informed h) user path).ending ∨
      (Query.run (collaborators h policy) user path).Overflows := by
  rw [Course.Overflows, Query.ending_run_eq_eager, Query.ending_run_eq_eager]
  unfold Query.eager
  simp only [collaborators, informed]
  -- Up to the question about the groups the collaborators are the same.
  split
  · exact .inl rfl
  · next record hresolve =>
    split
    · exact .inl rfl
    · split
      · exact .inl rfl
      · have hname := nul_notMem_of_resolveUser hresolve
        obtain hlist | ⟨⟨wanted, hoverflow⟩, -⟩ := resolveGroups_ending honest hinitial hname
        · rw [hlist]
          exact .inl rfl
        · rw [hoverflow]
          refine (Query.settle_of_failure _ _).imp_right fun hfails => ?_
          exact ⟨user, wanted, hfails⟩

end Queries

/-! ## Runs of the program -/

/-- A run that carries out a request shows a query that overflows. -/
def MeetsOverflow (c : Collaborators) (r : Request) (x : Run) : Prop :=
  ∃ user ∈ r.user, ∃ path ∈ r.paths,
    (Query.run c user path).Overflows ∧ courseShown c user path <:+: x.trace

section Runs

variable {h : Host} {p q : Policy}

theorem checkPaths_informed_or_overflows (honest : h.habit.IsHonest)
    (hp : p.initial.toNat ≤ Size.countLimit) (user : String) (quiet : Bool)
    (channels : Channels) (status : Status) (paths : List Path) :
    SameResults (checkPaths (collaborators h p) user quiet channels status paths)
        (checkPaths (informed h) user quiet channels status paths) ∨
      ∃ path ∈ paths, (Query.run (collaborators h p) user path).Overflows ∧
        courseShown (collaborators h p) user path <:+:
          (checkPaths (collaborators h p) user quiet channels status paths).trace := by
  refine (checkPaths_sameResults_or_parts channels status paths).imp_right ?_
  rintro ⟨path, hpath, hdiffer, hshown⟩
  have hoverflows := (run_ending_informed_or_overflows honest hp user path).resolve_left hdiffer
  exact ⟨path, hpath, hoverflows, hshown⟩

/-- The policy of a request counts only when paths are checked. -/
theorem carryOut_policy (h : Host) (channels : Channels) (r : Request) :
    (∀ p q, carryOut h channels { r with policy := p } =
        carryOut h channels { r with policy := q }) ∨
      ∃ user ∈ r.user, ∀ p, carryOut h channels { r with policy := p } =
        checkPaths (collaborators h p) user r.quiet channels .allowed r.paths := by
  by_cases hinformation : r.help = true ∨ r.version = true
  · refine .inl fun p q => ?_
    obtain hhelp | hversion := hinformation
    · simp only [carryOut, if_pos hhelp]
    · simp only [carryOut, if_pos hversion]
  · obtain ⟨hhelp, hversion⟩ := not_or.mp hinformation
    cases huser : r.user with
    | none => exact .inl fun p q => by simp only [carryOut]
    | some user =>
        refine .inr ⟨user, rfl, fun p => ?_⟩
        simp only [carryOut, if_neg hhelp, if_neg hversion]

/-- A request comes to the results of informed collaborators, if its run does not
overflow. -/
theorem carryOut_sameResults_informed (honest : h.habit.IsHonest)
    (hp : p.initial.toNat ≤ Size.countLimit) {channels : Channels} {r : Request} {user : String}
    (huser : user ∈ r.user)
    (hchecks : carryOut h channels { r with policy := p } =
      checkPaths (collaborators h p) user r.quiet channels .allowed r.paths)
    (hfits : ¬ MeetsOverflow (collaborators h p) r (carryOut h channels { r with policy := p })) :
    SameResults (carryOut h channels { r with policy := p })
      (checkPaths (informed h) user r.quiet channels .allowed r.paths) := by
  rw [hchecks] at hfits ⊢
  refine (checkPaths_informed_or_overflows honest hp user r.quiet channels .allowed
    r.paths).resolve_right fun hoverflows => hfits ?_
  exact ⟨user, huser, hoverflows⟩

/-- Requests that differ in their policies at most come to the same results, if
neither run overflows. -/
theorem carryOut_sameResults (honest : h.habit.IsHonest)
    (hp : p.initial.toNat ≤ Size.countLimit) (hq : q.initial.toNat ≤ Size.countLimit)
    {channels : Channels} {r : Request}
    (hpfits : ¬ MeetsOverflow (collaborators h p) r (carryOut h channels { r with policy := p }))
    (hqfits : ¬ MeetsOverflow (collaborators h q) r
      (carryOut h channels { r with policy := q })) :
    SameResults (carryOut h channels { r with policy := p })
      (carryOut h channels { r with policy := q }) := by
  obtain hsame | ⟨user, huser, hchecks⟩ := carryOut_policy h channels r
  · rw [hsame p q]
    exact SameResults.refl _
  · have hpinformed := carryOut_sameResults_informed honest hp huser (hchecks p) hpfits
    have hqinformed := carryOut_sameResults_informed honest hq huser (hchecks q) hqfits
    exact hpinformed.trans hqinformed.symm

/-- **Buffer sizes lose, invent and reorder nothing, and change no answer.**  On an
honest host every question for groups is answered with exactly the memberships, or
it overflows, after a listing into a buffer that was too small and could not grow.
Under two policies a query ends alike if it overflows under neither of them, and
so does the check of a single path; runs of the program write the same results and
have the same status if neither of them meets an overflow. -/
theorem listing_ignores_policy {h : Host} (honest : h.habit.IsHonest) {p q : Policy}
    (hp : p.initial.toNat ≤ Size.countLimit) (hq : q.initial.toNat ≤ Size.countLimit) :
    (∀ (user : String) (gid : Gid), '\x00' ∉ user.toList →
        (resolveGroups h p user gid).ending = .ok ⟨h.memberships user gid⟩ ∨
          (∃ wanted, (resolveGroups h p user gid).ending =
            .error (.error (.groupListOverflow user wanted))) ∧
          ∃ capacity,
            Effect.call (.listGroups user gid capacity) ∈ (resolveGroups h p user gid).trace ∧
              h.IsStuck p user gid capacity) ∧
      (∀ (user : String) (path : Path),
        ¬ (Query.run (collaborators h p) user path).Overflows →
        ¬ (Query.run (collaborators h q) user path).Overflows →
          (Query.run (collaborators h p) user path).ending =
            (Query.run (collaborators h q) user path).ending ∧
          ∀ (quiet : Bool) (channels : Channels) (status : Status),
            SameResults (checkPaths (collaborators h p) user quiet channels status [path])
              (checkPaths (collaborators h q) user quiet channels status [path])) ∧
      ∀ (channels : Channels) (arguments others : List Text.RawText) (r : Request),
        Request.ofArguments arguments = .ok { r with policy := p } →
        Request.ofArguments others = .ok { r with policy := q } →
        ¬ MeetsOverflow (collaborators h p) r (CommandLine.run h channels arguments) →
        ¬ MeetsOverflow (collaborators h q) r (CommandLine.run h channels others) →
          SameResults (CommandLine.run h channels arguments)
            (CommandLine.run h channels others) := by
  refine ⟨fun user gid hname => resolveGroups_ending honest hp hname,
    fun user path hpfits hqfits => ?_,
    fun channels arguments others r hparse hparse' hpfits hqfits => ?_⟩
  · have hpinformed := (run_ending_informed_or_overflows honest hp user path).resolve_right hpfits
    have hqinformed := (run_ending_informed_or_overflows honest hq user path).resolve_right hqfits
    have hending := hpinformed.trans hqinformed.symm
    refine ⟨hending, fun quiet channels status => ?_⟩
    refine (checkPaths_sameResults_or_parts channels status [path]).resolve_right ?_
    rintro ⟨other, hother, hdiffer, -⟩
    obtain rfl := List.mem_singleton.mp hother
    exact hdiffer hending
  · simp only [CommandLine.run, hparse] at hpfits ⊢
    simp only [CommandLine.run, hparse'] at hqfits ⊢
    exact carryOut_sameResults honest hp hq hpfits hqfits

end Runs

/-- A host with one user of three groups, that tells nothing about a buffer that is
too small. -/
def reticent : Host where
  users := [⟨⟨Text.RawText.ofString "eve", 7, none, none, true, true⟩, 100, [50, 60]⟩]
  groups := []
  files := [⟨⟨[47, 102]⟩, 500, 50, 0o100640, none, .absent, none⟩]
  habit := ⟨.fixed (-5), none, false⟩
  currentUid := 0

/-- No slots at first, and one more for each retry. -/
def oneByOne : Policy := ⟨0, 1, Nat.one_pos⟩

/-- Three retries find the three groups, and the program says the same as with a
buffer that is large enough at once. -/
theorem listing_ignores_policy_oneByOne :
    reticent.habit.IsHonest ∧ oneByOne.initial.toNat ≤ Size.countLimit ∧
      Policy.standard.initial.toNat ≤ Size.countLimit ∧
      (resolveGroups reticent oneByOne "eve" 100).ending = .ok ⟨[100, 50, 60]⟩ ∧
      SameResults
        (CommandLine.run reticent .unlimited (["permcheck", "--initial-groups", "0",
          "--group-increment", "1", "eve", "/f"].map Text.RawText.ofString))
        (CommandLine.run reticent .unlimited
          (["permcheck", "eve", "/f"].map Text.RawText.ofString)) := by
  have honest : reticent.habit.IsHonest := by decide
  have hfirst : oneByOne.initial.toNat ≤ Size.countLimit := by decide
  have hsecond : Policy.standard.initial.toNat ≤ Size.countLimit := by decide
  obtain ⟨hlists, hqueries, hruns⟩ := listing_ignores_policy honest hfirst hsecond
  refine ⟨honest, hfirst, hsecond, ?_, ?_⟩
  · refine (hlists "eve" 100 (by decide)).resolve_right ?_
    rintro ⟨-, capacity, -, hshort, hlimit⟩
    have hlength : (reticent.memberships "eve" 100).length = 3 := by decide
    have hcount : (reticent.shortCount "eve" 100 capacity).toNat = 0 := rfl
    have hincrement : oneByOne.increment.toNat = 1 := rfl
    unfold Size.countLimit at hlimit
    omega
  · let r : Request := ⟨false, false, .standard, false, .standard, some "eve", [⟨[47, 102]⟩]⟩
    have hfits : ∀ (p : Policy) (x : Run),
        (Query.run (collaborators reticent p) "eve" ⟨[47, 102]⟩).ending.toOption = some .allowed →
          ¬ MeetsOverflow (collaborators reticent p) r x := by
      rintro p x hallowed ⟨user, huser, path, hpath, ⟨name, wanted, hoverflow⟩, -⟩
      obtain rfl := Option.some.inj huser
      obtain rfl := List.mem_singleton.mp hpath
      rw [hoverflow] at hallowed
      cases hallowed
    refine hruns .unlimited _ _ r (by rfl) (by rfl) (hfits _ _ ?_) (hfits _ _ ?_)
    · decide +kernel
    · decide +kernel

end Live

end ReadAccess
