/-
  How a listing comes to its end.

  A lister may fail, claim any count, or never have enough slots.  All the same
  each retry has more slots than the attempt before it, by no less than the
  increment, and none has more than the listing call counts.  `Groups.Tries` says
  which attempts a listing makes and how it ends; there are few of them, and the
  listing ends at the first that leaves no way on (`Live.listing_ends`).
-/
import Mathlib.Data.List.Chain
import ReadAccess.Groups.Planned
import ReadAccess.Proofs.Enumeration

set_option autoImplicit false

namespace ReadAccess

/-- A sum that passes the greatest size counts as that size. -/
theorem Size.toNat_addUpTo (a b : Size) :
    (addUpTo a b).toNat = min (a.toNat + b.toNat) greatest := by
  unfold addUpTo
  cases hadd : add? a b with
  | some c =>
      have hsum := add?_eq_some_iff.mp hadd
      have hlt := c.toNat_lt
      rw [Option.getD_some, hsum, Nat.min_eq_left]
      unfold greatest
      omega
  | none =>
      have hpast : greatest < a.toNat + b.toNat := by
        unfold add? at hadd
        split at hadd
        · cases hadd
        · next h => exact Nat.lt_of_not_le h
      rw [Option.getD_none, Nat.min_eq_right (Nat.le_of_lt hpast)]
      rfl

namespace Groups

theorem Policy.toNat_wanted (p : Policy) (current reported : Size) :
    (p.wanted current reported).toNat =
      min (max current.toNat reported.toNat + p.increment.toNat) Size.greatest := by
  rw [wanted, Size.toNat_addUpTo, Size.toNat_greater]

/-! ## The attempts of a listing -/

/-- The attempt that a lister makes at a buffer. -/
def attemptAt {σ : Type} (lister : Lister σ) (user : String) (gid : Gid) (state : σ)
    (buffer : Buffer) : Attempt :=
  let response := lister state user gid buffer
  ⟨buffer, buffer.overwrite response.written, response.reply⟩

namespace Attempt

/-- The attempt had too few slots, and a larger buffer follows.  It has as many slots as
the greater of the size and the report, and the increment on top, which the listing call
can still count: those that came back, and zeros behind them. -/
def LeadsTo (policy : Policy) (a : Attempt) (larger : Buffer) : Prop :=
  ∃ reported, a.reply = .ok (.insufficient reported) ∧
    larger.size.toNat = max a.before.size.toNat reported.toNat + policy.increment.toNat ∧
    larger.size.toNat ≤ Size.countLimit ∧
    larger.slots = a.after.slots ++ List.replicate (larger.size.toNat - a.before.size.toNat) 0

/-- The attempt leaves no way on, and the listing ends with it in this way. -/
inductive Ends (policy : Policy) (a : Attempt) : Except ListingFault GroupList → Prop where
  /-- The attempt failed. -/
  | failed {e : IoError} (hreply : a.reply = .error e) : Ends policy a (.error (.failed e))
  /-- The slots were enough. -/
  | complete {count : Size} (hreply : a.reply = .ok (.complete count)) :
      Ends policy a (.ok ⟨a.after.front count⟩)
  /-- A larger buffer would have more slots than the listing call counts. -/
  | stuck {reported : Size} (hreply : a.reply = .ok (.insufficient reported))
      (hlimit : Size.countLimit <
        max a.before.size.toNat reported.toNat + policy.increment.toNat) :
      Ends policy a (.error (.overflow (policy.wanted a.before.size reported)))

theorem LeadsTo.grows {policy : Policy} {a : Attempt} {larger : Buffer}
    (h : a.LeadsTo policy larger) :
    a.before.size.toNat + policy.increment.toNat ≤ larger.size.toNat := by
  obtain ⟨reported, -, hsize, -⟩ := h
  omega

theorem LeadsTo.le_countLimit {policy : Policy} {a : Attempt} {larger : Buffer}
    (h : a.LeadsTo policy larger) : larger.size.toNat ≤ Size.countLimit := by
  obtain ⟨reported, -, -, hlimit, -⟩ := h
  exact hlimit

end Attempt

section Attempts

variable {σ : Type} (lister : Lister σ) (policy : Policy) (user : String) (gid : Gid)

/-- A lister that is given a buffer in some state makes these attempts, each in the
state in which the one before left it, and the listing ends in this way. -/
inductive Tries : σ → Buffer → List Attempt → Except ListingFault GroupList → Prop where
  /-- The attempt is the last one. -/
  | last {state : σ} {buffer : Buffer} {ending : Except ListingFault GroupList}
      (hends : (attemptAt lister user gid state buffer).Ends policy ending) :
      Tries state buffer [attemptAt lister user gid state buffer] ending
  /-- The attempt is followed by others. -/
  | retry {state : σ} {buffer larger : Buffer} {rest : List Attempt}
      {ending : Except ListingFault GroupList}
      (hleads : (attemptAt lister user gid state buffer).LeadsTo policy larger)
      (hrest : Tries (lister state user gid buffer).next larger rest ending) :
      Tries state buffer (attemptAt lister user gid state buffer :: rest) ending

/-- A listing makes the attempts that its lister gives cause for.  By induction on
the attempts. -/
theorem attempts_tries (state : σ) (buffer : Buffer) :
    Tries lister policy user gid state buffer
      (attempts lister policy user gid state buffer).trace
      (attempts lister policy user gid state buffer).ending := by
  induction state, buffer using attempts.induct lister policy user gid with
  | case1 state buffer response e hreply =>
      have hreply : (lister state user gid buffer).reply = .error e := hreply
      rw [attempts_of_error hreply, ← hreply]
      exact .last (.failed hreply)
  | case2 state buffer response count hreply =>
      have hreply : (lister state user gid buffer).reply = .ok (.complete count) := hreply
      rw [attempts_of_complete hreply, ← hreply]
      exact .last (.complete hreply)
  | case3 state buffer response reported hreply hnext =>
      have hreply : (lister state user gid buffer).reply = .ok (.insufficient reported) := hreply
      rw [attempts_of_stuck hreply hnext, ← hreply]
      exact .last (.stuck hreply (Policy.next_eq_none_iff.mp hnext))
  | case4 state buffer response filled reported hreply capacity hnext ih =>
      have hreply : (lister state user gid buffer).reply = .ok (.insufficient reported) := hreply
      rw [attempts_of_growing hreply hnext, ← hreply]
      obtain ⟨hsize, hlimit⟩ := Policy.next_eq_some_iff.mp hnext
      exact .retry ⟨reported, hreply, hsize, hlimit, Buffer.slots_grow _ _ _⟩ ih

end Attempts

/-! ## What all attempts have in common -/

namespace Tries

variable {σ : Type} {lister : Lister σ} {policy : Policy} {user : String} {gid : Gid}
  {state : σ} {buffer : Buffer} {attempts : List Attempt}
  {ending : Except ListingFault GroupList}

theorem exists_cons (h : Tries lister policy user gid state buffer attempts ending) :
    ∃ rest, attempts = attemptAt lister user gid state buffer :: rest := by
  cases h with
  | last hends => exact ⟨[], rfl⟩
  | retry hleads hrest => exact ⟨_, rfl⟩

/-- Every attempt but the first is made at the buffer that the one before leads
to. -/
theorem isChain (h : Tries lister policy user gid state buffer attempts ending) :
    attempts.IsChain fun a b => a.LeadsTo policy b.before := by
  induction h with
  | last hends => exact List.isChain_singleton _
  | retry hleads hrest ih =>
      obtain ⟨rest, rfl⟩ := hrest.exists_cons
      exact List.isChain_cons_cons.mpr ⟨hleads, ih⟩

/-- The last attempt leaves no way on. -/
theorem exists_last (h : Tries lister policy user gid state buffer attempts ending) :
    ∃ before state buffer, attempts = before ++ [attemptAt lister user gid state buffer] ∧
      (attemptAt lister user gid state buffer).Ends policy ending := by
  induction h with
  | @last state buffer ending hends => exact ⟨[], state, buffer, rfl, hends⟩
  | retry hleads hrest ih =>
      obtain ⟨before, state, buffer, rfl, hends⟩ := ih
      exact ⟨_ :: before, state, buffer, rfl, hends⟩

/-- All increments together stay below the count of the listing call: after each
retry there is one increment less to go. -/
theorem increments_le (h : Tries lister policy user gid state buffer attempts ending) :
    (attempts.length - 1) * policy.increment.toNat ≤ Size.countLimit - buffer.size.toNat := by
  induction h with
  | last hends => simp
  | @retry state buffer larger rest ending hleads hrest ih =>
      obtain ⟨more, rfl⟩ := hrest.exists_cons
      have hgrows : buffer.size.toNat + policy.increment.toNat ≤ larger.size.toNat := hleads.grows
      have hlimit := hleads.le_countLimit
      simp only [List.length_cons, Nat.add_sub_cancel, Nat.add_mul, Nat.one_mul] at ih ⊢
      omega

theorem length_le (h : Tries lister policy user gid state buffer attempts ending) :
    attempts.length ≤
      1 + (Size.countLimit - buffer.size.toNat) / policy.increment.toNat := by
  have hretries : attempts.length - 1 ≤
      (Size.countLimit - buffer.size.toNat) / policy.increment.toNat :=
    (Nat.le_div_iff_mul_le policy.increment_pos).mpr h.increments_le
  omega

end Tries

/-- The capacities of attempts, in order. -/
def capacities (attempts : List Attempt) : List Nat := attempts.map fun a => a.before.size.toNat

theorem capacities_isChain {policy : Policy} {attempts : List Attempt}
    (h : attempts.IsChain fun a b => a.LeadsTo policy b.before) :
    (capacities attempts).IsChain fun c d =>
      c + policy.increment.toNat ≤ d ∧ d ≤ Size.countLimit := by
  rw [capacities, List.isChain_map]
  exact h.imp fun a b hleads => ⟨hleads.grows, hleads.le_countLimit⟩

end Groups

namespace Live

open Groups (Attempt Buffer Lister Listing PlannedAttempt Policy Tries attemptAt capacities planned)

/-! ## What the last attempt decides -/

/-- The attempt decides how a question for the groups of `user` is answered. -/
structure Decides (policy : Policy) (user : String) (a : Attempt)
    (answer : Except Failure GroupList) : Prop where
  /-- A failure is passed on, with the task that failed. -/
  failed : ∀ e, a.reply = .error e →
    answer = .error (.error (.systemFailure .enumerateGroups e))
  /-- A complete attempt gives the slots that it counts, as far as there are any. -/
  complete : ∀ count, a.reply = .ok (.complete count) →
    ∃ groups, answer = .ok groups ∧ groups.gids = a.after.slots.take count.toNat ∧
      groups.size = min count.toNat a.before.size.toNat
  /-- Too few slots are an overflow that names what was wanted, if the listing call
  cannot count that many; a number that is no size counts as the greatest. -/
  stuck : ∀ reported, a.reply = .ok (.insufficient reported) →
    Size.countLimit < max a.before.size.toNat reported.toNat + policy.increment.toNat ∧
      ∃ wanted, answer = .error (.error (.groupListOverflow user wanted)) ∧
        wanted.toNat =
          min (max a.before.size.toNat reported.toNat + policy.increment.toNat) Size.greatest

theorem decides_of_ends {σ : Type} {lister : Lister σ} {policy : Policy} {user : String}
    {gid : Gid} {state : σ} {buffer : Buffer} {listing : Listing}
    (h : (attemptAt lister user gid state buffer).Ends policy listing.ending) :
    Decides policy user (attemptAt lister user gid state buffer)
      (listingAnswer policy user gid listing).ending := by
  simp only [listingAnswer, Traced.mapError, Traced.expand_ending]
  generalize listing.ending = ending at h ⊢
  -- The reply is the one that ended the listing, so each of the other two is not at hand.
  cases h with
  | failed hreply =>
      constructor
      · intro e he
        obtain rfl := Except.error.inj (hreply.symm.trans he)
        rfl
      · intro count hcount
        cases hreply.symm.trans hcount
      · intro reported hreported
        cases hreply.symm.trans hreported
  | complete hreply =>
      constructor
      · intro e he
        cases hreply.symm.trans he
      · intro count hcount
        obtain rfl := Groups.Reply.complete.inj (Except.ok.inj (hreply.symm.trans hcount))
        refine ⟨_, rfl, Buffer.front_eq_take _ _, ?_⟩
        rw [GroupList.size, Buffer.front_eq_take, List.length_take, Buffer.length_slots]
        rfl
      · intro reported hreported
        cases hreply.symm.trans hreported
  | stuck hreply hlimit =>
      constructor
      · intro e he
        cases hreply.symm.trans he
      · intro count hcount
        cases hreply.symm.trans hcount
      · intro reported hreported
        obtain rfl :=
          Groups.Reply.insufficient.inj (Except.ok.inj (hreply.symm.trans hreported))
        exact ⟨hlimit, _, rfl, Policy.toNat_wanted _ _ _⟩

/-- A listing whose first buffer can be allocated makes attempts from a buffer of
zeros on. -/
theorem list_tries {σ : Type} (lister : Lister σ) {policy : Policy}
    (hfirst : policy.Allocatable) (user : String) (gid : Gid) (state : σ) :
    Tries lister policy user gid state (.zeros policy.initial)
      (Groups.list lister policy user gid state).trace
      (Groups.list lister policy user gid state).ending := by
  rw [Groups.list, if_pos hfirst]
  exact Groups.attempts_tries lister policy user gid state _

/-- **A listing ends, whatever its lister does.**  If the first buffer can be
allocated, the listing makes one attempt at it and then one at each larger buffer
that the attempt before gives cause for.  The capacities grow by the increment or
more, all but the first can be counted by the listing call, and so the attempts are
few.  The listing ends with the first attempt that fails, is complete, or calls for
a buffer with more slots than can be counted. -/
theorem listing_ends {σ : Type} (lister : Lister σ) {policy : Policy}
    (hfirst : policy.Allocatable) (user : String) (gid : Gid) (state : σ) :
    let listing := Groups.list lister policy user gid state
    Tries lister policy user gid state (.zeros policy.initial) listing.trace listing.ending ∧
      (capacities listing.trace).head? = some policy.initial.toNat ∧
      listing.trace.IsChain (fun a b => a.LeadsTo policy b.before) ∧
      1 ≤ policy.increment.toNat ∧
      (capacities listing.trace).IsChain (fun c d =>
        c + policy.increment.toNat ≤ d ∧ d ≤ Size.countLimit) ∧
      listing.trace.length ≤
        1 + (Size.countLimit - policy.initial.toNat) / policy.increment.toNat ∧
      ∃ before last, listing.trace = before ++ [last] ∧
        Decides policy user last (listingAnswer policy user gid listing).ending := by
  intro listing
  have htries : Tries lister policy user gid state (.zeros policy.initial) listing.trace
      listing.ending := list_tries lister hfirst user gid state
  obtain ⟨rest, hcons⟩ := htries.exists_cons
  obtain ⟨before, state, buffer, htrace, hends⟩ := htries.exists_last
  refine ⟨htries, ?_, htries.isChain, policy.increment_pos,
    Groups.capacities_isChain htries.isChain, htries.length_le, before,
    attemptAt lister user gid state buffer, htrace, decides_of_ends hends⟩
  rw [hcons]
  rfl

/-- Answers of a lister that never has enough: it tells little of what it needs,
then more than anything can hold. -/
def neverEnough : List PlannedAttempt :=
  [⟨[100], .ok (.insufficient 3)⟩, ⟨[100, 50], .ok (.insufficient 0xFFFFFFFFFFFFFFFF)⟩]

/-- The lister is asked twice, and the listing does not wrap around. -/
theorem listing_ends_neverEnough :
    Policy.standard.Allocatable ∧
      capacities (Groups.list planned .standard "eve" 100 neverEnough).trace = [10, 110] ∧
      (Groups.list planned .standard "eve" 100 neverEnough).trace.length ≤
        1 + (Size.countLimit - 10) / 100 ∧
      ∃ wanted, wanted.toNat = Size.greatest ∧
        (listingAnswer .standard "eve" 100
          (Groups.list planned .standard "eve" 100 neverEnough)).ending =
            .error (.error (.groupListOverflow "eve" wanted)) := by
  have hfirst : Policy.standard.Allocatable := by decide
  have hcapacities :
      capacities (Groups.list planned .standard "eve" 100 neverEnough).trace = [10, 110] := by
    decide +kernel
  obtain ⟨-, -, -, -, -, hlength, -⟩ := listing_ends planned hfirst "eve" 100 neverEnough
  refine ⟨hfirst, hcapacities, hlength, 0xFFFFFFFFFFFFFFFF, rfl, ?_⟩
  decide +kernel

/-! ## Listings that do not break off -/

theorem list_ending_ne_unallocatable {σ : Type} (lister : Lister σ) {policy : Policy}
    (hfirst : policy.Allocatable) (user : String) (gid : Gid) (state : σ) :
    (Groups.list lister policy user gid state).ending ≠ .error .unallocatable := by
  intro hending
  obtain ⟨-, _, _, -, hends⟩ := (list_tries lister hfirst user gid state).exists_last
  rw [hending] at hends
  cases hends

theorem listingAnswer_ne_aborted {policy : Policy} {user : String} {gid : Gid}
    {listing : Listing} (hstarts : listing.ending ≠ .error .unallocatable) :
    (listingAnswer policy user gid listing).ending ≠ .error .aborted := by
  obtain ⟨attempts, ending⟩ := listing
  cases ending with
  | ok groups => exact nofun
  | error fault =>
      cases fault with
      | failed e => exact nofun
      | overflow wanted => exact nofun
      | unallocatable => exact absurd rfl hstarts

theorem resolveGroups_ne_aborted (h : Host) {policy : Policy} (hfirst : policy.Allocatable)
    (user : String) (gid : Gid) :
    (resolveGroups h policy user gid).ending ≠ .error .aborted := by
  unfold resolveGroups
  split
  · exact nofun
  · exact listingAnswer_ne_aborted (list_ending_ne_unallocatable h.lister hfirst user gid ⟨⟩)

end Live

end ReadAccess
