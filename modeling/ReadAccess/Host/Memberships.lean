/-
  How the host lists the groups of a user.
-/
import ReadAccess.Groups.Listing
import ReadAccess.Host.Basic

set_option autoImplicit false

namespace ReadAccess.Host

open Text (RawText)
open Groups (Buffer Lister Reply Response)

/-- The memberships of a user: the given group, then the groups of the first
user of that name. -/
def memberships (h : Host) (user : String) (gid : Gid) : List Gid :=
  match h.users.find? fun a => a.name == RawText.ofString user with
  | none => [gid]
  | some account => gid :: account.groups

def listingFits (h : Host) (user : String) (gid : Gid) (capacity : Size) : Bool :=
  (h.memberships user gid).length ≤ capacity.toNat && !h.habit.neverFits

/-- What a failed listing into `capacity` slots leaves in its count. -/
def shortCount (h : Host) (user : String) (gid : Gid) (capacity : Size) : Int :=
  match h.habit.shortReport with
  | .required => (h.memberships user gid).length
  | .capacity => capacity.toNat
  | .fixed count => count

def fullCount (h : Host) (user : String) (gid : Gid) : Int :=
  h.habit.complete.getD (h.memberships user gid).length

/-- A count as a size: nothing counts less than nothing. -/
def countSize (count : Int) : Size := UInt64.ofNat count.toNat

/-- The reply of a listing into `capacity` slots.  A success counts no more
slots than there are, and a failure reports no fewer. -/
def listingReply (h : Host) (user : String) (gid : Gid) (capacity : Size) : Reply :=
  if h.listingFits user gid capacity then
    let count := countSize (h.fullCount user gid)
    .complete (if capacity ≤ count then capacity else count)
  else .insufficient (Size.greater (countSize (h.shortCount user gid capacity)) capacity)

/-- Whether a listing reaches the host: a name with a NUL character and a buffer
with more slots than can be counted do not. -/
def listingReaches (user : String) (capacity : Size) : Bool :=
  !user.toList.contains '\x00' && capacity.toNat ≤ Size.countLimit

/-- The host as a lister.  It has no state. -/
def lister (h : Host) : Lister PUnit := fun _ user gid buffer =>
  if user.toList.contains '\x00' then ⟨[], .error .nulInUserName, ⟨⟩⟩
  else if buffer.size.toNat ≤ Size.countLimit then
    ⟨h.memberships user gid, .ok (h.listingReply user gid buffer.size), ⟨⟩⟩
  else ⟨[], .error .bufferTooLarge, ⟨⟩⟩

end ReadAccess.Host
