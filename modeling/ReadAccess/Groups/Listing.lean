/-
  Listing the groups of a user into a buffer that grows until they fit.

  The call that lists groups fills a buffer of the caller's and fails if the
  buffer is too small, so the number of memberships is found by retrying.  Each
  retry has more slots than the one before, and no capacity after the first one
  passes the call's count, so the retries end whatever the call answers.
-/
import ReadAccess.Effect
import ReadAccess.Groups.Buffer
import ReadAccess.Groups.Policy
import ReadAccess.Traced

set_option autoImplicit false

namespace ReadAccess.Groups

/-- What an attempt to list groups says about its buffer. -/
inductive Reply where
  /-- The buffer was large enough, and its first `count` slots are the
  groups. -/
  | complete (count : Size)
  /-- The buffer was too small; `reported` memberships are said to exist. -/
  | insufficient (reported : Size)
  deriving DecidableEq, Repr

/-- What an attempt does: it writes to the front of the buffer, and replies or
fails. -/
structure Response (σ : Type) where
  written : List Gid
  reply : Except IoError Reply
  /-- The state in which the next attempt finds the lister. -/
  next : σ

/-- Something that lists the groups of a user into a buffer, attempt by
attempt, with states `σ` between the attempts. -/
abbrev Lister (σ : Type) := σ → String → Gid → Buffer → Response σ

/-- One attempt, as it was seen. -/
structure Attempt where
  before : Buffer
  after : Buffer
  reply : Except IoError Reply

/-- Why a listing has no list. -/
inductive ListingFault where
  | failed (e : IoError)
  /-- The buffer cannot grow to the wanted size. -/
  | overflow (wanted : Size)
  | unallocatable
  deriving DecidableEq, Repr

/-- A listing in the making: the attempts so far, and the list or its lack. -/
abbrev Listing := Traced Attempt ListingFault GroupList

/-- The attempts from `buffer` on. -/
def attempts {σ : Type} (lister : Lister σ) (policy : Policy) (user : String) (gid : Gid)
    (state : σ) (buffer : Buffer) : Listing :=
  let response := lister state user gid buffer
  let filled := buffer.overwrite response.written
  let attempt : Attempt := ⟨buffer, filled, response.reply⟩
  match response.reply with
  | .error e => ⟨[attempt], .error (.failed e)⟩
  | .ok (.complete count) => ⟨[attempt], .ok ⟨filled.front count⟩⟩
  | .ok (.insufficient reported) =>
      match h : policy.next buffer.size reported with
      | none => ⟨[attempt], .error (.overflow (policy.wanted buffer.size reported))⟩
      | some capacity =>
          (attempts lister policy user gid response.next
            (filled.grow capacity (Nat.le_of_lt (Policy.lt_next h)))).after [attempt]
termination_by Size.countLimit + 1 - buffer.size.toNat
decreasing_by
  have hlt := Policy.lt_next h
  have hle := Policy.next_le h
  simp only [Buffer.grow]
  omega

/-- The groups of a user: attempts that start from a buffer of zeros of the
first capacity. -/
def list {σ : Type} (lister : Lister σ) (policy : Policy) (user : String) (gid : Gid)
    (state : σ) : Listing :=
  if policy.Allocatable then attempts lister policy user gid state (.zeros policy.initial)
  else .fail .unallocatable

/-- What the log says after an attempt: nothing if the attempt failed. -/
def Attempt.note? (policy : Policy) (user : String) (a : Attempt) : Option Note :=
  match a.reply with
  | .error _ => none
  | .ok (.complete count) => some (.groupsListed user (a.after.front count).length)
  | .ok (.insufficient reported) =>
      match policy.next a.before.size reported with
      | none => some (.bufferStuck user a.before.size)
      | some capacity => some (.bufferGrows user a.before.size reported capacity)

/-! ## What the attempts do -/

variable {σ : Type} {lister : Lister σ} {policy : Policy} {user : String} {gid : Gid}
  {state : σ} {buffer : Buffer}

theorem attempts_of_error {e : IoError}
    (h : (lister state user gid buffer).reply = .error e) :
    attempts lister policy user gid state buffer =
      ⟨[⟨buffer, buffer.overwrite (lister state user gid buffer).written, .error e⟩],
        .error (.failed e)⟩ := by
  rw [attempts]
  simp only [h]

theorem attempts_of_complete {count : Size}
    (h : (lister state user gid buffer).reply = .ok (.complete count)) :
    attempts lister policy user gid state buffer =
      ⟨[⟨buffer, buffer.overwrite (lister state user gid buffer).written, .ok (.complete count)⟩],
        .ok ⟨(buffer.overwrite (lister state user gid buffer).written).front count⟩⟩ := by
  rw [attempts]
  simp only [h]

/-- An attempt after which the buffer cannot grow ends the listing. -/
theorem attempts_of_stuck {reported : Size}
    (h : (lister state user gid buffer).reply = .ok (.insufficient reported))
    (hnext : policy.next buffer.size reported = none) :
    attempts lister policy user gid state buffer =
      ⟨[⟨buffer, buffer.overwrite (lister state user gid buffer).written,
          .ok (.insufficient reported)⟩],
        .error (.overflow (policy.wanted buffer.size reported))⟩ := by
  rw [attempts]
  simp only [h]
  split
  · rfl
  · next hsome => rw [hnext] at hsome; cases hsome

/-- Any other attempt is followed by one with a larger buffer. -/
theorem attempts_of_growing {reported capacity : Size}
    (h : (lister state user gid buffer).reply = .ok (.insufficient reported))
    (hnext : policy.next buffer.size reported = some capacity) :
    attempts lister policy user gid state buffer =
      (attempts lister policy user gid (lister state user gid buffer).next
        ((buffer.overwrite (lister state user gid buffer).written).grow capacity
          (Nat.le_of_lt (Policy.lt_next hnext)))).after
        [⟨buffer, buffer.overwrite (lister state user gid buffer).written,
          .ok (.insufficient reported)⟩] := by
  rw [attempts]
  simp only [h]
  split
  · next hnone => rw [hnext] at hnone; cases hnone
  · next c hsome =>
    have hc : c = capacity := Option.some.inj (hsome.symm.trans hnext)
    subst hc
    rfl

end ReadAccess.Groups
