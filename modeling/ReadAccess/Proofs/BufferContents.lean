/-
  What is in the buffer of a listing.

  The attempts of a listing share one buffer.  Each finds in it what the attempt before it
  left and zeros behind that, so what failed attempts have written stays in the buffer.
  None of it gets into the list if the last attempt writes all slots that it counts: the
  list is then the beginning of what that attempt wrote, whatever the others wrote
  (`listing_leaks_nothing`).
-/
import ReadAccess.Proofs.Retries

set_option autoImplicit false

namespace ReadAccess

namespace Groups

/-! ## Plans -/

/-- What a planned lister does once nothing is planned: it fails. -/
def unplanned : PlannedAttempt := ⟨[], .error .answersExhausted⟩

/-- What is planned for an attempt, counted from zero. -/
def plannedAt (plan : List PlannedAttempt) (i : Nat) : PlannedAttempt := plan.getD i unplanned

/-- Two plans have the same replies; what their attempts write may differ. -/
def SameReplies (plan other : List PlannedAttempt) : Prop :=
  plan.map PlannedAttempt.reply = other.map PlannedAttempt.reply

theorem plannedAt_tail (plan : List PlannedAttempt) (i : Nat) :
    plannedAt plan.tail i = plannedAt plan (i + 1) := by
  cases plan <;> rfl

theorem planned_eq (plan : List PlannedAttempt) (user : String) (gid : Gid) (buffer : Buffer) :
    planned plan user gid buffer =
      ⟨(plannedAt plan 0).written, (plannedAt plan 0).reply, plan.tail⟩ := by
  cases plan <;> rfl

theorem next_planned (plan : List PlannedAttempt) (user : String) (gid : Gid) (buffer : Buffer) :
    (planned plan user gid buffer).next = plan.tail := by
  rw [planned_eq]

theorem SameReplies.tail {plan other : List PlannedAttempt} (h : SameReplies plan other) :
    SameReplies plan.tail other.tail := by
  unfold SameReplies at h ⊢
  rw [List.map_tail, List.map_tail, h]

theorem reply_plannedAt (plan : List PlannedAttempt) (i : Nat) :
    (plannedAt plan i).reply = (plan.map PlannedAttempt.reply).getD i unplanned.reply := by
  simp only [plannedAt, List.getD_eq_getElem?_getD, List.getElem?_map]
  cases plan[i]? <;> rfl

theorem SameReplies.reply_eq {plan other : List PlannedAttempt} (h : SameReplies plan other)
    (i : Nat) : (plannedAt plan i).reply = (plannedAt other i).reply := by
  rw [reply_plannedAt, reply_plannedAt, h]

/-! ## One attempt -/

/-- The attempt does what was planned: it overwrites the front of its buffer, as far as
there are slots, and gives the reply. -/
structure Attempt.Follows (a : Attempt) (step : PlannedAttempt) : Prop where
  reply : a.reply = step.reply
  size : a.after.size = a.before.size
  slots : a.after.slots =
    step.written.take a.before.size.toNat ++ a.before.slots.drop step.written.length

theorem attemptAt_follows (plan : List PlannedAttempt) (user : String) (gid : Gid)
    (buffer : Buffer) :
    (attemptAt planned user gid plan buffer).Follows (plannedAt plan 0) := by
  refine ⟨?_, rfl, ?_⟩
  · rw [attemptAt, planned_eq]
  · simp only [attemptAt, planned_eq]
    exact Buffer.slots_overwrite _ _

theorem SameReplies.reply_attemptAt_eq {plan other : List PlannedAttempt}
    (h : SameReplies plan other) (user : String) (gid : Gid) (buffer buffer' : Buffer) :
    (attemptAt planned user gid plan buffer).reply =
      (attemptAt planned user gid other buffer').reply := by
  rw [(attemptAt_follows _ _ _ _).reply, (attemptAt_follows _ _ _ _).reply, h.reply_eq]

/-- Every slot that the attempt counts, as far as there are slots, is one that it was
planned to write. -/
def Attempt.Covers (a : Attempt) (step : PlannedAttempt) : Prop :=
  ∀ count, a.reply = .ok (.complete count) →
    min count.toNat a.before.size.toNat ≤ step.written.length

theorem Attempt.Follows.front_eq {a : Attempt} {step : PlannedAttempt} (h : a.Follows step)
    (count : Size) :
    a.after.front count = a.after.slots.take (min count.toNat a.before.size.toNat) := by
  rw [Buffer.front_eq_take, ← h.size, ← Buffer.length_slots, ← List.take_take, List.take_length]

/-- The slots that it counts are then what it has written. -/
theorem Attempt.Follows.front_eq_written {a : Attempt} {step : PlannedAttempt}
    (h : a.Follows step) (hcovers : a.Covers step) {count : Size}
    (hcount : a.reply = .ok (.complete count)) :
    a.after.front count = step.written.take (min count.toNat a.before.size.toNat) := by
  have hwritten := hcovers count hcount
  rw [h.front_eq, h.slots, List.take_append_of_le_length, List.take_take, Nat.min_eq_left]
  · exact Nat.min_le_right _ _
  · rw [List.length_take]
    omega

/-- An attempt that leaves no way on leads to no larger buffer. -/
theorem Attempt.Ends.not_leadsTo {policy : Policy} {a b : Attempt}
    {ending : Except ListingFault GroupList} {larger : Buffer} (h : a.Ends policy ending)
    (hsize : a.before.size = b.before.size) (hreply : a.reply = b.reply) :
    ¬ b.LeadsTo policy larger := by
  rintro ⟨reported, hb, hlarger, hlimit, -⟩
  rw [← hreply] at hb
  rw [← hsize] at hlarger
  cases h with
  | failed ha => cases ha.symm.trans hb
  | complete ha => cases ha.symm.trans hb
  | stuck ha hpast =>
      obtain rfl := Reply.insufficient.inj (Except.ok.inj (ha.symm.trans hb))
      omega

/-- A listing has a list exactly if its last attempt is complete. -/
theorem Attempt.Ends.eq_ok_iff {policy : Policy} {a : Attempt}
    {ending : Except ListingFault GroupList} (h : a.Ends policy ending) {groups : GroupList} :
    ending = .ok groups ↔
      ∃ count, a.reply = .ok (.complete count) ∧ groups.gids = a.after.front count := by
  cases h with
  | failed ha => simp [ha]
  | complete ha =>
      obtain ⟨gids⟩ := groups
      simp [ha, eq_comm]
  | stuck ha _ => simp [ha]

/-- Attempts with the same reply at buffers of the same size end a listing in the same way,
unless they are complete with different slots. -/
theorem Attempt.Ends.eq_of_same {policy : Policy} {a b : Attempt}
    {ending ending' : Except ListingFault GroupList} (h : a.Ends policy ending)
    (h' : b.Ends policy ending') (hsize : a.before.size = b.before.size)
    (hreply : a.reply = b.reply)
    (hfront : ∀ count, a.reply = .ok (.complete count) →
      a.after.front count = b.after.front count) :
    ending = ending' := by
  cases h with
  | failed ha =>
      rw [ha] at hreply
      cases h' with
      | failed hb => rw [Except.error.inj (hreply.trans hb)]
      | complete hb => cases hreply.trans hb
      | stuck hb _ => cases hreply.trans hb
  | @complete count ha =>
      rw [hfront count ha]
      rw [ha] at hreply
      cases h' with
      | failed hb => cases hreply.trans hb
      | complete hb => rw [Reply.complete.inj (Except.ok.inj (hreply.trans hb))]
      | stuck hb _ => cases hreply.trans hb
  | stuck ha _ =>
      rw [hsize]
      rw [ha] at hreply
      cases h' with
      | failed hb => cases hreply.trans hb
      | complete hb => cases hreply.trans hb
      | stuck hb _ => rw [Reply.insufficient.inj (Except.ok.inj (hreply.trans hb))]

/-! ## All attempts -/

section Plans

variable {policy : Policy} {user : String} {gid : Gid} {plan other : List PlannedAttempt}
  {buffer buffer' : Buffer} {attempts attempts' : List Attempt}
  {ending ending' : Except ListingFault GroupList}

/-- The attempts follow the plan, each its own part of it. -/
theorem Tries.follows (h : Tries planned policy user gid plan buffer attempts ending) :
    ∀ (i : Nat) (a : Attempt), attempts[i]? = some a → a.Follows (plannedAt plan i) := by
  induction h with
  | @last plan buffer ending hends =>
      intro i a ha
      cases i with
      | zero =>
          obtain rfl := Option.some.inj ha
          exact attemptAt_follows plan user gid buffer
      | succ i => cases ha
  | @retry plan buffer larger rest ending hleads hrest ih =>
      intro i a ha
      cases i with
      | zero =>
          obtain rfl := Option.some.inj ha
          exact attemptAt_follows plan user gid buffer
      | succ i =>
          have hfollows := ih i a ha
          rw [next_planned, plannedAt_tail] at hfollows
          exact hfollows

/-- Plans with the same replies lead to the same sizes: a larger buffer has as many slots
as the size and the reply before it call for.  By induction on the attempts of the one,
with those of the other beside it. -/
theorem Tries.sizes_eq (h : Tries planned policy user gid plan buffer attempts ending)
    (h' : Tries planned policy user gid other buffer' attempts' ending')
    (hreplies : SameReplies plan other) (hsize : buffer.size = buffer'.size) :
    attempts.map (fun a => a.before.size) = attempts'.map fun a => a.before.size := by
  induction h generalizing other buffer' attempts' with
  | @last plan buffer ending hends =>
      have hreply := hreplies.reply_attemptAt_eq user gid buffer buffer'
      cases h' with
      | last hends' => exact congrArg (fun s => [s]) hsize
      | retry hleads' hrest' => exact absurd hleads' (hends.not_leadsTo hsize hreply)
  | @retry plan buffer larger rest ending hleads hrest ih =>
      have hreply := hreplies.reply_attemptAt_eq user gid buffer buffer'
      cases h' with
      | last hends' => exact absurd hleads (hends'.not_leadsTo hsize.symm hreply.symm)
      | @retry _ _ larger' rest' _ hleads' hrest' =>
          obtain ⟨reported, ha, hlarger, -⟩ := hleads
          obtain ⟨reported', hb, hlarger', -⟩ := hleads'
          obtain rfl :=
            Reply.insufficient.inj (Except.ok.inj (ha.symm.trans (hreply.trans hb)))
          have hgrown : larger.size = larger'.size := by
            refine UInt64.toNat_inj.mp (hlarger.trans ?_)
            rw [hlarger']
            show max buffer.size.toNat _ + _ = max buffer'.size.toNat _ + _
            rw [hsize]
          rw [next_planned] at hrest' ih
          exact congrArg₂ List.cons hsize (ih hrest' hreplies.tail hgrown)

/-- The last of the attempts is the one that is planned at its place. -/
theorem Tries.last_follows {earlier : List Attempt} {last : Attempt}
    (h : Tries planned policy user gid plan buffer (earlier ++ [last]) ending) :
    last.Follows (plannedAt plan earlier.length) :=
  h.follows earlier.length last (by simp)

/-- A last attempt that has written every slot that it counts decides alone how the listing
ends. -/
theorem Tries.ending_eq {earlier earlier' : List Attempt} {last last' : Attempt}
    (h : Tries planned policy user gid plan buffer (earlier ++ [last]) ending)
    (h' : Tries planned policy user gid other buffer' (earlier' ++ [last']) ending')
    (hends : last.Ends policy ending) (hends' : last'.Ends policy ending')
    (hreplies : SameReplies plan other) (hsize : buffer.size = buffer'.size)
    (hwritten : (plannedAt other earlier.length).written = (plannedAt plan earlier.length).written)
    (hcovers : last.Covers (plannedAt plan earlier.length)) : ending = ending' := by
  have hsizes := h.sizes_eq h' hreplies hsize
  have hlength : earlier.length = earlier'.length := by
    simpa using congrArg List.length hsizes
  have hlast : last.before.size = last'.before.size := by
    rw [List.map_append, List.map_append] at hsizes
    exact (List.cons.inj (List.append_inj' hsizes rfl).2).1
  have hfollows := h.last_follows
  have hfollows' := h'.last_follows
  rw [← hlength] at hfollows'
  have hreply : last.reply = last'.reply := by
    rw [hfollows.reply, hfollows'.reply, hreplies.reply_eq]
  -- The other attempt writes the same at a buffer of the same size.
  have hcovers' : last'.Covers (plannedAt other earlier.length) := by
    intro count hcount
    rw [hwritten, ← hlast]
    exact hcovers count (hreply.trans hcount)
  refine hends.eq_of_same hends' hlast hreply fun count hcount => ?_
  rw [hfollows.front_eq_written hcovers hcount,
    hfollows'.front_eq_written hcovers' (hreply.symm.trans hcount), hwritten, hlast]

end Plans

/-! ## Whole listings -/

/-- **A listing leaks nothing from failed attempts.**  Its attempts follow their plan.  The
first finds zeros, and each of the others what the one before it left, with zeros behind
that.  A list is the beginning of the buffer that the last attempt left, as far as that
attempt counts and there are slots.  If the last attempt has written every slot that it
counts, the list is the beginning of what it has written, and any plan with the same replies
and the same last attempt ends in the same way. -/
theorem listing_leaks_nothing {policy : Policy} (hfirst : policy.Allocatable) (user : String)
    (gid : Gid) (plan : List PlannedAttempt) :
    let listing := list planned policy user gid plan
    (∀ (i : Nat) (a : Attempt), listing.trace[i]? = some a → a.Follows (plannedAt plan i)) ∧
      listing.trace.IsChain (fun a b =>
        b.before.slots =
          a.after.slots ++ List.replicate (b.before.size.toNat - a.before.size.toNat) 0) ∧
      (∀ a, listing.trace.head? = some a →
        a.before.slots = List.replicate policy.initial.toNat 0) ∧
      ∃ earlier last, listing.trace = earlier ++ [last] ∧
        (∀ groups, listing.ending = .ok groups ↔
          ∃ count, last.reply = .ok (.complete count) ∧
            groups.gids = last.after.slots.take (min count.toNat last.before.size.toNat)) ∧
        (last.Covers (plannedAt plan earlier.length) →
          (∀ groups, listing.ending = .ok groups →
            groups.gids <+: (plannedAt plan earlier.length).written) ∧
          ∀ other, SameReplies plan other →
            (plannedAt other earlier.length).written = (plannedAt plan earlier.length).written →
            (list planned policy user gid other).ending = listing.ending) := by
  intro listing
  have htries : Tries planned policy user gid plan (.zeros policy.initial) listing.trace
      listing.ending := Live.list_tries planned hfirst user gid plan
  obtain ⟨earlier, state, buffer, htrace, hends⟩ := htries.exists_last
  refine ⟨htries.follows, htries.isChain.imp fun a b hleads => ?_, ?_, earlier, _, htrace, ?_, ?_⟩
  · obtain ⟨reported, -, -, -, hslots⟩ := hleads
    exact hslots
  · intro a ha
    obtain ⟨rest, hcons⟩ := htries.exists_cons
    rw [hcons] at ha
    obtain rfl := Option.some.inj ha
    exact Buffer.slots_zeros _
  all_goals
    rw [htrace] at htries
    have hfollows := htries.last_follows
    generalize attemptAt planned user gid state buffer = last at htries hends hfollows ⊢
  · intro groups
    simp only [hends.eq_ok_iff, hfollows.front_eq]
  · intro hcovers
    refine ⟨fun groups hgroups => ?_, fun other hreplies hwritten => ?_⟩
    · obtain ⟨count, hcount, hgids⟩ := hends.eq_ok_iff.mp hgroups
      rw [hgids, hfollows.front_eq_written hcovers hcount]
      exact List.take_prefix _ _
    · have htries' := Live.list_tries planned hfirst user gid other
      obtain ⟨earlier', state', buffer', htrace', hends'⟩ := htries'.exists_last
      rw [htrace'] at htries'
      exact (htries.ending_eq htries' hends hends' hreplies rfl hwritten hcovers).symm

/-- Answers of a lister whose first attempt fails after it has written `stale`. -/
def secondTry (stale : List Gid) : List PlannedAttempt :=
  [⟨stale, .ok (.insufficient 3)⟩, ⟨[100, 50], .ok (.complete 2)⟩]

/-- What the first attempt has written makes no difference. -/
theorem listing_leaks_nothing_secondTry :
    Policy.standard.Allocatable ∧
      (list planned .standard "eve" 100 (secondTry [7, 7, 7])).ending = .ok ⟨[100, 50]⟩ ∧
      (list planned .standard "eve" 100 (secondTry [])).ending =
        (list planned .standard "eve" 100 (secondTry [7, 7, 7])).ending := by
  have hfirst : Policy.standard.Allocatable := by decide
  obtain ⟨hfollows, -, -, earlier, last, htrace, -, hcovered⟩ :=
    listing_leaks_nothing hfirst "eve" 100 (secondTry [7, 7, 7])
  have hlength : (list planned .standard "eve" 100 (secondTry [7, 7, 7])).trace.length = 2 := by
    decide +kernel
  have hearlier : earlier.length = 1 := by
    rw [htrace, List.length_append, List.length_singleton] at hlength
    omega
  rw [hearlier] at hcovered
  have hlast : last.Follows (plannedAt (secondTry [7, 7, 7]) 1) :=
    hfollows 1 last (by rw [htrace, ← hearlier]; simp)
  have hcovers : last.Covers (plannedAt (secondTry [7, 7, 7]) 1) := by
    intro count hcount
    obtain rfl := Reply.complete.inj (Except.ok.inj (hlast.reply.symm.trans hcount))
    exact Nat.min_le_left _ _
  refine ⟨hfirst, ?_, (hcovered hcovers).2 (secondTry []) rfl rfl⟩
  decide +kernel

/-- A last attempt that counts more slots than it has written passes on what it found in
them. -/
example : (list planned .standard "eve" 100
    [⟨[7, 7, 7], .ok (.insufficient 3)⟩, ⟨[100], .ok (.complete 4)⟩]).ending =
      .ok ⟨[100, 7, 7, 0]⟩ := by
  decide +kernel

end Groups

end ReadAccess
