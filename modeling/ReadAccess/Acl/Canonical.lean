/-
  Orders of the entries of an access control list: the order in which entries
  are handed over, by class, and the order in which they are stored, by class
  and number.
-/
import ReadAccess.Acl.Basic

set_option autoImplicit false

namespace ReadAccess.Acl

/-! ## Sorting -/

/-- The element put in front of the first one that it may precede. -/
def insertBy {α : Type} (le : α → α → Bool) (x : α) : List α → List α
  | [] => [x]
  | y :: rest => if le x y then x :: y :: rest else y :: insertBy le x rest

/-- The list in the order `le`.  Elements that may precede each other keep
their order. -/
def sortBy {α : Type} (le : α → α → Bool) (xs : List α) : List α :=
  xs.foldr (insertBy le) []

/-! ## The two orders -/

/-- The class of a tag where entries are handed over: those without meaning come
last. -/
def Tag.handingRank : Tag → Nat
  | .owner => 0
  | .user _ => 1
  | .owningGroup => 2
  | .group _ => 3
  | .mask => 4
  | .other => 5
  | .unknown _ => 6

/-- The class of a tag where entries are stored: those without meaning come
first. -/
def Tag.storedRank : Tag → Nat
  | .unknown _ => 0
  | .owner => 1
  | .user _ => 2
  | .owningGroup => 3
  | .group _ => 4
  | .mask => 5
  | .other => 6

/-- The number that a tag names, and zero if it names none. -/
def Tag.number : Tag → Nat
  | .user uid => uid.toNat
  | .group gid => gid.toNat
  | _ => 0

def Entry.handsBefore (a b : Entry) : Bool := a.tag.handingRank ≤ b.tag.handingRank

def Entry.storesBefore (a b : Entry) : Bool :=
  a.tag.storedRank < b.tag.storedRank ||
    (a.tag.storedRank == b.tag.storedRank && a.tag.number ≤ b.tag.number)

def handingOrder (entries : List Entry) : List Entry := sortBy Entry.handsBefore entries

def storedOrder (entries : List Entry) : List Entry := sortBy Entry.storesBefore entries

end ReadAccess.Acl
