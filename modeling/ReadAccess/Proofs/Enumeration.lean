/-
  What a listing into a growing buffer finds.

  A failed attempt leaves the beginning of the list in the buffer and whatever
  count it likes; the attempt that succeeds overwrites the one, and the other has
  only moved the capacity.  So on a host that is honest about its successes the
  attempts end with exactly the memberships, or else at a capacity that is too
  small and cannot grow (`Host.attempts_ending`).
-/
import ReadAccess.Live

set_option autoImplicit false

namespace ReadAccess

namespace Groups

/-- A list that fits is the front of every buffer that it overwrites. -/
theorem Buffer.front_overwrite_of_fits {b : Buffer} {gids : List Gid} {count : Size}
    (hfits : gids.length ≤ b.size.toNat) (hcount : count.toNat = gids.length) :
    (b.overwrite gids).front count = gids := by
  rw [front_eq_take, slots_overwrite, hcount, List.take_of_length_le hfits, List.take_left]

end Groups

namespace Host

open Groups (Attempt Buffer Policy attempts)

/-- A listing succeeds exactly if the memberships fit, and then counts all of
them.  What a failed listing leaves in its count may be anything. -/
def ListingHabit.IsHonest (habit : ListingHabit) : Prop :=
  habit.neverFits = false ∧ habit.complete = none

instance (habit : ListingHabit) : Decidable habit.IsHonest :=
  inferInstanceAs (Decidable (_ ∧ _))

/-- A capacity is too small for the memberships of a user, and what the greater of
it and the count of the failed listing comes to with the increment is no count
that the listing call accepts.  A negative count is none. -/
def IsStuck (h : Host) (policy : Policy) (user : String) (gid : Gid) (capacity : Size) : Prop :=
  capacity.toNat < (h.memberships user gid).length ∧
    Size.countLimit <
      max capacity.toNat (h.shortCount user gid capacity).toNat + policy.increment.toNat

/-! ## One attempt -/

section Attempts

variable {h : Host} {user : String} {gid : Gid} {capacity : Size}

theorem toNat_countSize_le (count : Int) : (countSize count).toNat ≤ count.toNat := by
  rw [countSize, UInt64.toNat_ofNat']
  exact Nat.mod_le _ _

theorem listingFits_iff (honest : h.habit.IsHonest) :
    h.listingFits user gid capacity = true ↔
      (h.memberships user gid).length ≤ capacity.toNat := by
  simp [listingFits, honest.1]

/-- A complete listing counts all memberships. -/
theorem listingReply_complete (honest : h.habit.IsHonest)
    (hlimit : capacity.toNat ≤ Size.countLimit) {count : Size}
    (hreply : h.listingReply user gid capacity = .complete count) :
    (h.memberships user gid).length ≤ capacity.toNat ∧
      count.toNat = (h.memberships user gid).length := by
  rw [listingReply] at hreply
  split at hreply
  · next hfit =>
    have hle := (listingFits_iff honest).mp hfit
    have hfull : (countSize (h.fullCount user gid)).toNat =
        (h.memberships user gid).length := by
      rw [fullCount, honest.2, Option.getD_none, countSize, Int.toNat_natCast,
        UInt64.toNat_ofNat', Nat.mod_eq_of_lt]
      unfold Size.countLimit at hlimit
      omega
    obtain rfl := Groups.Reply.complete.inj hreply
    refine ⟨hle, ?_⟩
    split
    · next hcap => exact Nat.le_antisymm (hfull ▸ UInt64.le_iff_toNat_le.mp hcap) hle
    · exact hfull
  · cases hreply

/-- A listing that is not complete had too few slots, and reports no more than the
greater of them and its count. -/
theorem listingReply_insufficient (honest : h.habit.IsHonest) {reported : Size}
    (hreply : h.listingReply user gid capacity = .insufficient reported) :
    capacity.toNat < (h.memberships user gid).length ∧
      reported.toNat ≤ max capacity.toNat (h.shortCount user gid capacity).toNat := by
  rw [listingReply] at hreply
  split at hreply
  · cases hreply
  · next hshort =>
    have hlt : capacity.toNat < (h.memberships user gid).length :=
      Nat.lt_of_not_le fun hle => hshort ((listingFits_iff honest).mpr hle)
    obtain rfl := Groups.Reply.insufficient.inj hreply
    have hcount := toNat_countSize_le (h.shortCount user gid capacity)
    refine ⟨hlt, ?_⟩
    rw [Size.toNat_greater]
    omega

theorem listingReaches_iff :
    listingReaches user capacity = true ↔
      '\x00' ∉ user.toList ∧ capacity.toNat ≤ Size.countLimit := by
  simp [listingReaches]

theorem lister_of_reaches {state : PUnit} {buffer : Buffer}
    (hreach : listingReaches user buffer.size = true) :
    h.lister state user gid buffer =
      ⟨h.memberships user gid, .ok (h.listingReply user gid buffer.size), ⟨⟩⟩ := by
  obtain ⟨hname, hlimit⟩ := listingReaches_iff.mp hreach
  have hname : ¬ user.toList.contains '\x00' = true := by simpa using hname
  rw [lister, if_neg hname, if_pos hlimit]

/-! ## All attempts -/

/-- The attempts from a buffer on that the host accepts: they end with the
memberships, or one of them is stuck.  By induction on the attempts; nothing about
the contents of the buffer is carried along. -/
theorem attempts_ending (honest : h.habit.IsHonest) (policy : Policy) (gid : Gid)
    (state : PUnit) (buffer : Buffer)
    (hreach : listingReaches user buffer.size = true) :
    (attempts h.lister policy user gid state buffer).ending = .ok ⟨h.memberships user gid⟩ ∨
      ∃ a ∈ (attempts h.lister policy user gid state buffer).trace,
        listingReaches user a.before.size = true ∧
          h.IsStuck policy user gid a.before.size ∧
          ∃ wanted, (attempts h.lister policy user gid state buffer).ending =
            .error (.overflow wanted) := by
  induction state, buffer using Groups.attempts.induct h.lister policy user gid with
  | case1 state buffer response e hreply =>
      have hreply : (h.lister state user gid buffer).reply = .error e := hreply
      rw [lister_of_reaches hreach] at hreply
      cases hreply
  | case2 state buffer response count hreply =>
      have hreply : (h.lister state user gid buffer).reply = .ok (.complete count) := hreply
      refine .inl ?_
      rw [Groups.attempts_of_complete hreply]
      rw [lister_of_reaches hreach] at hreply ⊢
      obtain ⟨hfits, hcount⟩ :=
        listingReply_complete honest (listingReaches_iff.mp hreach).2 (Except.ok.inj hreply)
      have hfront := Buffer.front_overwrite_of_fits (b := buffer) hfits hcount
      exact congrArg (fun gids => Except.ok (GroupList.mk gids)) hfront
  | case3 state buffer response reported hreply hnext =>
      have hreply : (h.lister state user gid buffer).reply = .ok (.insufficient reported) := hreply
      refine .inr ?_
      rw [Groups.attempts_of_stuck hreply hnext]
      refine ⟨_, List.mem_singleton_self _, hreach, ?_, _, rfl⟩
      rw [lister_of_reaches hreach] at hreply
      obtain ⟨hshort, hreported⟩ := listingReply_insufficient honest (Except.ok.inj hreply)
      have hlimit := Policy.next_eq_none_iff.mp hnext
      refine ⟨hshort, ?_⟩
      show Size.countLimit <
        max buffer.size.toNat (h.shortCount user gid buffer.size).toNat + policy.increment.toNat
      omega
  | case4 state buffer response filled reported hreply capacity hnext ih =>
      have hreply : (h.lister state user gid buffer).reply = .ok (.insufficient reported) := hreply
      rw [Groups.attempts_of_growing hreply hnext]
      -- The larger buffer is one that the host accepts as well.
      have hgrown : listingReaches user capacity = true :=
        listingReaches_iff.mpr ⟨(listingReaches_iff.mp hreach).1, Policy.next_le hnext⟩
      obtain hlist | ⟨a, ha, hstuck⟩ := ih hgrown
      · exact .inl hlist
      · exact .inr ⟨a, List.mem_append_right _ ha, hstuck⟩

end Attempts

end Host

namespace Live

open Groups (Policy)

variable {h : Host} {policy : Policy} {user : String} {gid : Gid}

theorem resolveGroups_eq (hinitial : policy.initial.toNat ≤ Size.countLimit)
    (hname : '\x00' ∉ user.toList) :
    resolveGroups h policy user gid =
      listingAnswer policy user gid
        (Groups.attempts h.lister policy user gid ⟨⟩ (.zeros policy.initial)) := by
  have hname : ¬ user.toList.contains '\x00' = true := by simpa using hname
  have hallocatable : policy.Allocatable := by
    unfold Size.countLimit at hinitial
    unfold Policy.Allocatable Size.allocationLimit
    omega
  rw [resolveGroups, if_neg hname, Groups.list, if_pos hallocatable]

/-- A question for the groups of a user is answered with the memberships, or with an
overflow after a listing into a buffer that is too small and cannot grow. -/
theorem resolveGroups_ending (honest : h.habit.IsHonest)
    (hinitial : policy.initial.toNat ≤ Size.countLimit) (hname : '\x00' ∉ user.toList) :
    (resolveGroups h policy user gid).ending = .ok ⟨h.memberships user gid⟩ ∨
      (∃ wanted, (resolveGroups h policy user gid).ending =
        .error (.error (.groupListOverflow user wanted))) ∧
      ∃ capacity,
        Effect.call (.listGroups user gid capacity) ∈ (resolveGroups h policy user gid).trace ∧
          h.IsStuck policy user gid capacity := by
  have hreach : Host.listingReaches user (Groups.Buffer.zeros policy.initial).size = true :=
    Host.listingReaches_iff.mpr ⟨hname, hinitial⟩
  rw [resolveGroups_eq hinitial hname]
  obtain hlist | ⟨a, ha, hcalled, hstuck, wanted, hoverflow⟩ :=
    Host.attempts_ending honest policy gid ⟨⟩ _ hreach
  · left
    simp only [listingAnswer, Traced.mapError, Traced.expand_ending, hlist]
  · refine .inr ⟨⟨wanted, ?_⟩, a.before.size, ?_, hstuck⟩
    · simp only [listingAnswer, Traced.mapError, Traced.expand_ending, hoverflow, listingFailure]
    · refine List.mem_flatMap.mpr ⟨a, ha, List.mem_append_left _ ?_⟩
      rw [if_pos hcalled]
      exact List.mem_singleton_self _

end Live

end ReadAccess
