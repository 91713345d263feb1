/-
  With which capacities a listing is made.

  On a host that is honest about its successes the capacities are known in advance.  If
  failed listings report the number of memberships, there is one retry, with the increment
  to spare; if they report the capacity that they were given, the capacities go up by the
  increment until the memberships fit.  The listing is given up where the next capacity is
  more than the listing call counts, and the error names that capacity, or the greatest size
  if it is none (`Live.capacities_on_schedule`).
-/
import Mathlib.Algebra.Order.Floor.Div
import ReadAccess.Proofs.Retries

set_option autoImplicit false

namespace ReadAccess

/-- The size that is nearest to a number. -/
def Size.nearest (n : Nat) : Size := UInt64.ofNat (min n greatest)

theorem Size.eq_nearest_of_toNat {size : Size} {n : Nat} (h : size.toNat = min n greatest) :
    size = nearest n := by
  rw [nearest, ← h, UInt64.ofNat_toNat]

theorem Size.nearest_toNat (size : Size) : nearest size.toNat = size := by
  have hle : size.toNat ≤ greatest := Nat.le_of_lt_succ size.toNat_lt
  exact (eq_nearest_of_toNat (Nat.min_eq_left hle).symm).symm

namespace Groups

/-- No attempt of a listing has more slots than the listing call counts, if the first one has
not. -/
theorem Tries.size_le {σ : Type} {lister : Lister σ} {policy : Policy} {user : String} {gid : Gid}
    {state : σ} {buffer : Buffer} {attempts : List Attempt}
    {ending : Except ListingFault GroupList}
    (h : Tries lister policy user gid state buffer attempts ending)
    (hfirst : buffer.size.toNat ≤ Size.countLimit) :
    ∀ a ∈ attempts, a.before.size.toNat ≤ Size.countLimit := by
  induction h with
  | last hends =>
      intro a ha
      obtain rfl := List.mem_singleton.mp ha
      exact hfirst
  | retry hleads hrest ih =>
      intro a ha
      obtain rfl | ha := List.mem_cons.mp ha
      · exact hfirst
      · exact ih hleads.le_countLimit a ha

/-- Attempts are made with these capacities, and end in this way. -/
structure Goes (x : Listing) (schedule : List Nat) (ending : Except ListingFault GroupList) :
    Prop where
  capacities : capacities x.trace = schedule
  ending : x.ending = ending

/-- An attempt in front of a listing puts its capacity in front of the schedule. -/
theorem Goes.after {x : Listing} {schedule : List Nat} {ending : Except ListingFault GroupList}
    (h : Goes x schedule ending) (a : Attempt) :
    Goes (x.after [a]) (a.before.size.toNat :: schedule) ending :=
  ⟨congrArg (List.cons _) h.capacities, h.ending⟩

end Groups

namespace Host

open Groups (Attempt Buffer Goes ListingFault Policy attempts)

section Schedules

variable {h : Host} {policy : Policy} {user : String} {gid : Gid} {buffer : Buffer}

/-- Into a buffer that the host accepts it writes the memberships, and replies. -/
theorem lister_of_reply {reply : Groups.Reply} (hreach : listingReaches user buffer.size = true)
    (hreply : h.listingReply user gid buffer.size = reply) :
    h.lister ⟨⟩ user gid buffer = ⟨h.memberships user gid, .ok reply, ⟨⟩⟩ := by
  rw [lister_of_reaches hreach, hreply]

/-- A listing into too few slots reports the greater of their number and its count. -/
theorem listingReply_of_short (honest : h.habit.IsHonest) {capacity : Size}
    (hshort : capacity.toNat < (h.memberships user gid).length)
    (hcount : (h.shortCount user gid capacity).toNat ≤ Size.countLimit) :
    ∃ reported, h.listingReply user gid capacity = .insufficient reported ∧
      reported.toNat = max capacity.toNat (h.shortCount user gid capacity).toNat := by
  have hfits : ¬ h.listingFits user gid capacity = true := by
    rw [listingFits_iff honest]
    omega
  refine ⟨_, if_neg hfits, ?_⟩
  rw [Size.toNat_greater, countSize, UInt64.toNat_ofNat', Nat.mod_eq_of_lt, Nat.max_comm]
  exact Nat.lt_of_le_of_lt hcount (by decide)

/-- Memberships that fit are listed by one attempt. -/
theorem attempts_of_fits (honest : h.habit.IsHonest) (policy : Policy)
    (hreach : listingReaches user buffer.size = true)
    (hfits : (h.memberships user gid).length ≤ buffer.size.toNat) :
    Goes (attempts h.lister policy user gid ⟨⟩ buffer) [buffer.size.toNat]
      (.ok ⟨h.memberships user gid⟩) := by
  cases hreply : h.listingReply user gid buffer.size with
  | insufficient reported =>
      have hshort := (listingReply_insufficient honest hreply).1
      omega
  | complete count =>
      have hcount := (listingReply_complete honest (listingReaches_iff.mp hreach).2 hreply).2
      have hlister := lister_of_reply hreach hreply
      rw [Groups.attempts_of_complete (congrArg Groups.Response.reply hlister), hlister]
      have hfront := Buffer.front_overwrite_of_fits (b := buffer) hfits hcount
      exact ⟨rfl, congrArg (fun gids => Except.ok (GroupList.mk gids)) hfront⟩

/-- After an attempt with too few slots the others go on from the capacity that is wanted
next, if the listing call counts that many. -/
theorem attempts_of_grows (honest : h.habit.IsHonest)
    (hreach : listingReaches user buffer.size = true)
    (hshort : buffer.size.toNat < (h.memberships user gid).length)
    (hcount : (h.shortCount user gid buffer.size).toNat ≤ Size.countLimit) {wanted : Nat}
    (hwanted : max buffer.size.toNat (h.shortCount user gid buffer.size).toNat +
      policy.increment.toNat = wanted) (hcounted : wanted ≤ Size.countLimit) :
    ∃ larger : Buffer, larger.size.toNat = wanted ∧ listingReaches user larger.size = true ∧
      ∀ schedule ending, Goes (attempts h.lister policy user gid ⟨⟩ larger) schedule ending →
        Goes (attempts h.lister policy user gid ⟨⟩ buffer) (buffer.size.toNat :: schedule)
          ending := by
  obtain ⟨reported, hreply, hreported⟩ := listingReply_of_short honest hshort hcount
  have hlister := lister_of_reply hreach hreply
  cases hnext : policy.next buffer.size reported with
  | none =>
      have hpast := Policy.next_eq_none_iff.mp hnext
      omega
  | some capacity =>
      obtain ⟨hcapacity, hlimit⟩ := Policy.next_eq_some_iff.mp hnext
      rw [Groups.attempts_of_growing (congrArg Groups.Response.reply hlister) hnext]
      refine ⟨_, ?_, ?_, fun schedule ending hrest => hrest.after _⟩
      · show capacity.toNat = _
        omega
      · exact listingReaches_iff.mpr ⟨(listingReaches_iff.mp hreach).1, hlimit⟩

/-- Otherwise the listing is given up, and the error names what was wanted. -/
theorem attempts_of_overflows (honest : h.habit.IsHonest)
    (hreach : listingReaches user buffer.size = true)
    (hshort : buffer.size.toNat < (h.memberships user gid).length)
    (hcount : (h.shortCount user gid buffer.size).toNat ≤ Size.countLimit) {wanted : Nat}
    (hwanted : max buffer.size.toNat (h.shortCount user gid buffer.size).toNat +
      policy.increment.toNat = wanted) (hpast : Size.countLimit < wanted) :
    Goes (attempts h.lister policy user gid ⟨⟩ buffer) [buffer.size.toNat]
      (.error (.overflow (Size.nearest wanted))) := by
  obtain ⟨reported, hreply, hreported⟩ := listingReply_of_short honest hshort hcount
  have hlister := lister_of_reply hreach hreply
  cases hnext : policy.next buffer.size reported with
  | some capacity =>
      obtain ⟨hcapacity, hlimit⟩ := Policy.next_eq_some_iff.mp hnext
      omega
  | none =>
      have hnearest : policy.wanted buffer.size reported = Size.nearest wanted := by
        refine Size.eq_nearest_of_toNat ?_
        rw [Policy.toNat_wanted, hreported, ← hwanted]
        omega
      rw [Groups.attempts_of_stuck (congrArg Groups.Response.reply hlister) hnext, hnearest]
      exact ⟨rfl, rfl⟩

/-! ## Failed listings that report what is required -/

/-- There is one retry, with the increment to spare, if that many can be counted. -/
theorem attempts_of_required (honest : h.habit.IsHonest)
    (hreport : h.habit.shortReport = .required) (policy : Policy)
    (hreach : listingReaches user buffer.size = true)
    (hshort : buffer.size.toNat < (h.memberships user gid).length)
    (hlength : (h.memberships user gid).length ≤ Size.countLimit) :
    let wanted := (h.memberships user gid).length + policy.increment.toNat
    (wanted ≤ Size.countLimit →
      Goes (attempts h.lister policy user gid ⟨⟩ buffer) [buffer.size.toNat, wanted]
        (.ok ⟨h.memberships user gid⟩)) ∧
      (Size.countLimit < wanted →
        Goes (attempts h.lister policy user gid ⟨⟩ buffer) [buffer.size.toNat]
          (.error (.overflow (Size.nearest wanted)))) := by
  intro wanted
  have hcount : (h.shortCount user gid buffer.size).toNat = (h.memberships user gid).length := by
    simp [shortCount, hreport]
  have hwanted : max buffer.size.toNat (h.shortCount user gid buffer.size).toNat +
      policy.increment.toNat = wanted := by
    rw [hcount, Nat.max_eq_right (Nat.le_of_lt hshort)]
  refine ⟨fun hcounted => ?_, attempts_of_overflows honest hreach hshort (by omega) hwanted⟩
  obtain ⟨larger, hlarger, hreached, hgoes⟩ :=
    attempts_of_grows honest hreach hshort (by omega) hwanted hcounted
  have hfits : (h.memberships user gid).length ≤ larger.size.toNat := by
    rw [hlarger]
    exact Nat.le_add_right _ _
  have hrest := attempts_of_fits honest policy hreached hfits
  rw [hlarger] at hrest
  exact hgoes _ _ hrest

/-! ## Failed listings that report the capacity -/

/-- The capacities go up by the increment, past those that are too small, and stop at one
that is large enough or in front of one that cannot be counted.  By induction on what the
capacity is short of the count: each retry has an increment less to go. -/
theorem exists_steps_of_capacity (honest : h.habit.IsHonest)
    (hreport : h.habit.shortReport = .capacity) (policy : Policy) (gid : Gid)
    (hreach : listingReaches user buffer.size = true) :
    ∃ n, (∀ k < n, buffer.size.toNat + k * policy.increment.toNat <
        (h.memberships user gid).length) ∧
      buffer.size.toNat + n * policy.increment.toNat ≤ Size.countLimit ∧
      ((h.memberships user gid).length ≤ buffer.size.toNat + n * policy.increment.toNat ∧
          Goes (attempts h.lister policy user gid ⟨⟩ buffer)
            (List.range' buffer.size.toNat (n + 1) policy.increment.toNat)
            (.ok ⟨h.memberships user gid⟩) ∨
        buffer.size.toNat + n * policy.increment.toNat < (h.memberships user gid).length ∧
          Size.countLimit < buffer.size.toNat + (n + 1) * policy.increment.toNat ∧
          Goes (attempts h.lister policy user gid ⟨⟩ buffer)
            (List.range' buffer.size.toNat (n + 1) policy.increment.toNat)
            (.error (.overflow
              (Size.nearest (buffer.size.toNat + (n + 1) * policy.increment.toNat))))) := by
  have hpos := policy.increment_pos
  induction hleft : Size.countLimit - buffer.size.toNat using Nat.strong_induction_on
    generalizing buffer with
  | _ left ih =>
      have hlimit := (listingReaches_iff.mp hreach).2
      by_cases hfits : (h.memberships user gid).length ≤ buffer.size.toNat
      · exact ⟨0, by simp, by simpa using hlimit, .inl
          ⟨by simpa using hfits, attempts_of_fits honest policy hreach hfits⟩⟩
      have hshort := Nat.lt_of_not_le hfits
      have hcount : (h.shortCount user gid buffer.size).toNat = buffer.size.toNat := by
        simp [shortCount, hreport]
      have hwanted : max buffer.size.toNat (h.shortCount user gid buffer.size).toNat +
          policy.increment.toNat = buffer.size.toNat + policy.increment.toNat := by
        rw [hcount, Nat.max_self]
      by_cases hcounted : buffer.size.toNat + policy.increment.toNat ≤ Size.countLimit
      · obtain ⟨larger, hlarger, hreached, hgoes⟩ :=
          attempts_of_grows honest hreach hshort (by omega) hwanted hcounted
        obtain ⟨n, hsmall, hcounted, hends⟩ := ih _ (by omega) hreached rfl
        -- One increment is behind, so the steps of the rest are one ahead.
        have hstep : ∀ k, larger.size.toNat + k * policy.increment.toNat =
            buffer.size.toNat + (k + 1) * policy.increment.toNat := by
          intro k
          rw [hlarger, Nat.add_mul]
          omega
        simp only [hstep] at hsmall hcounted hends
        refine ⟨n + 1, ?_, hcounted, ?_⟩
        · intro k hk
          cases k with
          | zero => simpa using hshort
          | succ k => exact hsmall k (Nat.lt_of_succ_lt_succ hk)
        · rw [List.range'_succ, ← hlarger]
          obtain ⟨hfits, hrest⟩ | ⟨hsmall, hpast, hrest⟩ := hends
          · exact .inl ⟨hfits, hgoes _ _ hrest⟩
          · exact .inr ⟨hsmall, hpast, hgoes _ _ hrest⟩
      · have hpast := Nat.lt_of_not_le hcounted
        have hgoes := attempts_of_overflows honest hreach hshort (by omega) hwanted hpast
        refine ⟨0, by simp, by simpa using hlimit, .inr ⟨by simpa using hshort, ?_, ?_⟩⟩
        · simpa using hpast
        · simpa using hgoes

end Schedules

end Host

namespace Live

open Groups (Buffer Goes Policy capacities)

/-! ## Calls to the host -/

/-- The calls to the host that an answer takes, in order. -/
def callsOf {α : Type} (x : Answer α) : List HostCall := x.trace.filterMap Effect.call?

section Calls

variable {h : Host} {policy : Policy} {user : String} {gid : Gid} {schedule : List Nat}

theorem callsOf_listingAnswer {x : Groups.Listing}
    (hreach : ∀ a ∈ x.trace, Host.listingReaches user a.before.size = true) :
    callsOf (listingAnswer policy user gid x) =
      (capacities x.trace).map fun c => .listGroups user gid (Size.nearest c) := by
  obtain ⟨trace, ending⟩ := x
  show (trace.flatMap (attemptEffects policy user gid)).filterMap Effect.call? = _
  induction trace with
  | nil => rfl
  | cons a rest ih =>
      have hnote :
          ((a.note? policy user).map Effect.note).toList.filterMap Effect.call? = [] := by
        cases a.note? policy user <;> rfl
      rw [List.flatMap_cons, List.filterMap_append,
        ih fun b hb => hreach b (List.mem_cons_of_mem a hb), attemptEffects,
        if_pos (hreach a List.mem_cons_self), List.filterMap_append, hnote]
      simp [capacities, Effect.call?, Size.nearest_toNat]

/-- The groups of `user` are listed by calls with these capacities, and the answer is this
one. -/
structure ListsBy (h : Host) (policy : Policy) (user : String) (gid : Gid) (schedule : List Nat)
    (answer : Except AccessError GroupList) : Prop where
  calls : callsOf (resolveGroups h policy user gid) =
    schedule.map fun c => .listGroups user gid (Size.nearest c)
  ending : (resolveGroups h policy user gid).ending = answer.mapError Failure.error

variable (hname : '\x00' ∉ user.toList) (hinitial : policy.initial.toNat ≤ Size.countLimit)

include hname hinitial

/-- Attempts on a schedule are calls with these capacities. -/
theorem listsBy_of_goes {ending : Except Groups.ListingFault GroupList}
    {answer : Except AccessError GroupList}
    (hgoes : Goes (Groups.attempts h.lister policy user gid ⟨⟩ (.zeros policy.initial)) schedule
      ending)
    (hanswer : ending.mapError (listingFailure user) = answer.mapError Failure.error) :
    ListsBy h policy user gid schedule answer := by
  have htries := Groups.attempts_tries h.lister policy user gid ⟨⟩ (.zeros policy.initial)
  rw [← hgoes.ending] at hanswer
  constructor
  · rw [resolveGroups_eq hinitial hname, callsOf_listingAnswer, hgoes.capacities]
    exact fun a ha => Host.listingReaches_iff.mpr ⟨hname, htries.size_le hinitial a ha⟩
  · rw [resolveGroups_eq hinitial hname, ← hanswer]
    rfl

end Calls

/-- **Groups are listed on a schedule.**  If the memberships fit the first capacity, there
is one call.  If a call that fails reports how many there are, there is one more, with the
increment to spare.  If it reports the capacity that it was given, the capacities go up by
the increment, in as few steps as it takes.  Where the next capacity is more than the call
counts, the listing is given up in front of it; the error names it, or the greatest size if it
is none. -/
theorem capacities_on_schedule {h : Host} (honest : h.habit.IsHonest) {user : String}
    (hname : '\x00' ∉ user.toList) (gid : Gid) {policy : Policy}
    (hinitial : policy.initial.toNat ≤ Size.countLimit)
    (hlength : (h.memberships user gid).length ≤ Size.countLimit) :
    let needed := (h.memberships user gid).length
    let first := policy.initial.toNat
    let step := policy.increment.toNat
    let found : Except AccessError GroupList := .ok ⟨h.memberships user gid⟩
    let overflow (wanted : Nat) : Except AccessError GroupList :=
      .error (.groupListOverflow user (Size.nearest wanted))
    (needed ≤ first → ListsBy h policy user gid [first] found) ∧
      (first < needed → h.habit.shortReport = .required →
        (needed + step ≤ Size.countLimit →
          ListsBy h policy user gid [first, needed + step] found) ∧
        (Size.countLimit < needed + step →
          ListsBy h policy user gid [first] (overflow (needed + step)))) ∧
      (first < needed → h.habit.shortReport = .capacity →
        let steps := (needed - first) ⌈/⌉ step
        (first + steps * step ≤ Size.countLimit →
          ListsBy h policy user gid (List.range' first (steps + 1) step) found) ∧
        (Size.countLimit < first + steps * step → ∃ n, first + n * step ≤ Size.countLimit ∧
          Size.countLimit < first + (n + 1) * step ∧
          ListsBy h policy user gid (List.range' first (n + 1) step)
            (overflow (first + (n + 1) * step)))) := by
  intro needed first step found overflow
  have hreach : Host.listingReaches user (Buffer.zeros policy.initial).size = true :=
    Host.listingReaches_iff.mpr ⟨hname, hinitial⟩
  refine ⟨fun hfits => ?_, fun hshort hreport => ?_, fun hshort hreport => ?_⟩
  · exact listsBy_of_goes hname hinitial (Host.attempts_of_fits honest policy hreach hfits) rfl
  · obtain ⟨hretries, hoverflows⟩ :=
      Host.attempts_of_required honest hreport policy hreach hshort hlength
    exact ⟨fun hcounted => listsBy_of_goes hname hinitial (hretries hcounted) rfl,
      fun hpast => listsBy_of_goes hname hinitial (hoverflows hpast) rfl⟩
  · intro steps
    have hpos : 0 < step := policy.increment_pos
    have hsteps : ∀ n, steps ≤ n ↔ needed ≤ first + n * step := by
      intro n
      rw [ceilDiv_le_iff_le_mul hpos, Nat.mul_comm step n]
      omega
    obtain ⟨n, hsmall, hcounted, ⟨hfits, hgoes⟩ | ⟨hlast, hpast, hgoes⟩⟩ :=
      Host.exists_steps_of_capacity honest hreport policy gid hreach
    · -- The first capacity that is large enough is the one that the division finds.
      have hle : steps ≤ n := (hsteps n).mpr hfits
      have hge : n ≤ steps := by
        refine Nat.le_of_not_lt fun hlt => ?_
        exact absurd ((hsteps steps).mp (Nat.le_refl _)) (Nat.not_le_of_lt (hsmall steps hlt))
      obtain rfl := Nat.le_antisymm hle hge
      exact ⟨fun _ => listsBy_of_goes hname hinitial hgoes rfl,
        fun hover => absurd hcounted (Nat.not_le_of_lt hover)⟩
    · have hlt : n < steps := by
        refine Nat.lt_of_not_le fun hle => ?_
        exact absurd ((hsteps n).mp hle) (Nat.not_le_of_lt hlast)
      have hnext : (n + 1) * step ≤ steps * step := Nat.mul_le_mul_right step hlt
      refine ⟨fun hfew => ?_, fun _ => ⟨n, hcounted, hpast, ?_⟩⟩
      · have : first + (n + 1) * step ≤ Size.countLimit := by omega
        exact absurd this (Nat.not_le_of_lt hpast)
      · exact listsBy_of_goes hname hinitial hgoes rfl

/-- A host on which a user is in these groups, besides the primary one. -/
def hostWithMember (report : Host.ShortReport) (groups : List Gid) : Host :=
  { Host.empty with
    users := [⟨⟨.ofString "alice", 501, none, none, true, true⟩, 100, groups⟩]
    habit := ⟨report, none, false⟩ }

/-- A small buffer that grows slowly. -/
def byTwos : Policy := (Policy.standard.withInitial 1).withIncrement 2

/-- Six memberships are found in steps of two, and one of the slots stays empty. -/
theorem capacities_on_schedule_byTwos :
    let h := hostWithMember .capacity [50, 51, 50, 52, 53]
    h.habit.IsHonest ∧ '\x00' ∉ "alice".toList ∧ byTwos.initial.toNat ≤ Size.countLimit ∧
      (h.memberships "alice" 100).length ≤ Size.countLimit ∧
      ListsBy h byTwos "alice" 100 [1, 3, 5, 7] (.ok ⟨[100, 50, 51, 50, 52, 53]⟩) := by
  intro h
  have honest : h.habit.IsHonest := by decide
  have hname : '\x00' ∉ "alice".toList := by decide
  have hinitial : byTwos.initial.toNat ≤ Size.countLimit := by decide
  have hlength : (h.memberships "alice" 100).length ≤ Size.countLimit := by decide
  obtain ⟨-, -, hsteps⟩ := capacities_on_schedule honest hname 100 hinitial hlength
  have hlists := (hsteps (by decide) rfl).1 (by decide)
  have hschedule : List.range' byTwos.initial.toNat (((h.memberships "alice" 100).length -
      byTwos.initial.toNat) ⌈/⌉ byTwos.increment.toNat + 1) byTwos.increment.toNat =
      [1, 3, 5, 7] := by decide
  have hfound : h.memberships "alice" 100 = [100, 50, 51, 50, 52, 53] := by decide
  rw [hschedule, hfound] at hlists
  exact ⟨honest, hname, hinitial, hlength, hlists⟩

/-- With the greatest increment there is no size that could be named: the error does not tell
how many slots two memberships and the increment would take. -/
theorem overflow_past_every_size :
    let h := hostWithMember .required [50]
    let policy := byTwos.withIncrement (UInt64.ofNat Size.greatest)
    h.habit.IsHonest ∧ '\x00' ∉ "alice".toList ∧ policy.initial.toNat ≤ Size.countLimit ∧
      (h.memberships "alice" 100).length ≤ Size.countLimit ∧
      policy.initial.toNat < (h.memberships "alice" 100).length ∧
      h.habit.shortReport = .required ∧
      Size.countLimit < (h.memberships "alice" 100).length + policy.increment.toNat ∧
      ¬ ∃ requested : Size,
        (resolveGroups h policy "alice" 100).ending =
          .error (.error (.groupListOverflow "alice" requested)) ∧
        requested.toNat = (h.memberships "alice" 100).length + policy.increment.toNat := by
  intro h policy
  refine ⟨by decide, by decide, by decide, by decide, by decide, rfl, by decide, ?_⟩
  rintro ⟨requested, -, hrequested⟩
  have hlt := requested.toNat_lt
  have hsum : (h.memberships "alice" 100).length + policy.increment.toNat = 2 ^ 64 + 1 := by decide
  omega

end Live

end ReadAccess
