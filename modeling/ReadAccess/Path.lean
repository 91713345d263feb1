/-
  Paths, and when two of them name the same place without looking at the
  filesystem.
-/
import ReadAccess.Text.RawText
import ReadAccess.Text.Split

set_option autoImplicit false

namespace ReadAccess

open Text (RawText)

/-- A path is a text of bytes; a slash separates its components. -/
abbrev Path := RawText

namespace Path

/-- What a path says step by step. -/
structure Components where
  rooted : Bool
  names : List (List UInt8)
  deriving DecidableEq, Repr

/-- Whether a stretch says anything: the empty one and the single dot do not. -/
def isStep (name : List UInt8) : Bool := !(name.isEmpty || name == [46])

/-- The components of a path.  Repeated and trailing slashes and inner single
dots say nothing; a single dot in front of an unrooted path is kept. -/
def components (p : Path) : Components :=
  match Text.splitOn 47 p.bytes with
  | [46] :: rest => ⟨false, [46] :: rest.filter isStep⟩
  | names => ⟨p.bytes.head? == some 47, names.filter isStep⟩

/-- Two paths are alike if they have the same components. -/
def Alike (p q : Path) : Prop := p.components = q.components

instance (p q : Path) : Decidable (p.Alike q) :=
  inferInstanceAs (Decidable (_ = _))

end Path

end ReadAccess
