/-
  One pass, exactly.

  A pass fails if the list has a tag without meaning.  The error names the first one, and
  the pass has told of the entries in front of it and of nothing else.  Otherwise the pass
  tells of every entry and then of its findings, and its answer is what the findings give
  (`Acl.pass_exactly`).
-/
import ReadAccess.Proofs.PassReports

set_option autoImplicit false

namespace ReadAccess

namespace Acl

/-- `raw` is the number of the first tag without meaning, and `before` is what stands in
front of it. -/
structure StopsAt (acl : Acl) (before : List Entry) (raw : UInt16) : Prop where
  known : ∀ e ∈ before, e.tag.isKnown = true
  unknown : ∃ p after, acl.entries = before ++ ⟨.unknown raw, p⟩ :: after

section Stops

variable {acl : Acl} {before : List Entry} {raw : UInt16}

end Stops

/-! ## The pass -/

section Passes

variable {acl : Acl} {path : Path} {m : Metadata} {scope : Scope}

end Passes

/-- The entry behind the tag without meaning is not told of. -/
example :
    let acl : Acl := ⟨[⟨.owner, .read⟩, ⟨.unknown 0x20, .read⟩, ⟨.other, .read⟩]⟩
    (acl.pass ⟨[]⟩ ⟨500, 50, 0⟩ (.user 500)).trace = [.aclEntry .user .owner .read true] := by
  decide

end Acl

end ReadAccess
