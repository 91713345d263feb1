/-
  What a pass reports.

  A pass reports every entry in front of the first tag without meaning, in stored
  order, and if there is no such tag also its findings (`Acl.pass_trace`).
-/
import Mathlib.Data.List.TakeWhile
import ReadAccess.Proofs.Grants

set_option autoImplicit false

namespace ReadAccess

namespace Acl

/-- What a pass reports of an entry. -/
def Entry.report (m : Metadata) (scope : Scope) (e : Entry) : Event :=
  .aclEntry scope.kind e.tag e.permission (decide (e.tag = .mask ∨ e.tag.Concerns m scope))

/-- The entries in front of the first tag without meaning. -/
def known (acl : Acl) : List Entry := acl.entries.takeWhile fun e => e.tag.isKnown

/-- What a complete pass reports of its findings: whether an entry grants
reading, and whether no mask withholds it. -/
def findings (m : Metadata) (scope : Scope) (acl : Acl) : Event :=
  .aclPass scope.kind (acl.entries.any fun e => decide (e.GrantsRead m scope))
    (acl.entries.all fun e => decide e.LetsRead)

/-- A walk reports entries until it comes to a tag without meaning. -/
theorem walk_trace (m : Metadata) (scope : Scope) (t : Tally) (entries : List Entry) :
    (walk m scope t entries).trace =
      (entries.takeWhile fun e => e.tag.isKnown).map (Entry.report m scope) := by
  induction entries generalizing t with
  | nil => rfl
  | cons e rest ih =>
      cases hraw : e.tag.raw? with
      | some raw =>
          have hunknown : ¬ e.tag.isKnown = true := fun hknown => by
            rw [Tag.isKnown_iff, hraw] at hknown
            cases hknown
          rw [List.takeWhile_cons_of_neg (by exact hunknown)]
          simp only [walk, Tag.appliesTo_of_raw hraw]
          rfl
      | none =>
          have hknown : e.tag.isKnown = true := Tag.isKnown_iff.mpr hraw
          rw [List.takeWhile_cons_of_pos (by exact hknown)]
          simp only [walk, Tag.appliesTo_of_known hraw, Traced.after_trace, ih]
          rfl

theorem known_of_firstUnknown?_eq_none {acl : Acl} (h : acl.firstUnknown? = none) :
    acl.known = acl.entries :=
  List.takeWhile_eq_self_iff.mpr (firstUnknown?_eq_none_iff_isKnown.mp h)

/-- A pass reports the entries in front of the first tag without meaning, and if
there is none also its findings. -/
theorem pass_trace (acl : Acl) (path : Path) (m : Metadata) (scope : Scope) :
    (acl.pass path m scope).trace =
      acl.known.map (Entry.report m scope) ++
        match acl.firstUnknown? with
        | some _ => []
        | none => [acl.findings m scope] := by
  have hwalk : (walk m scope .start acl.entries).trace = acl.known.map (Entry.report m scope) :=
    walk_trace m scope .start acl.entries
  have hending := walk_ending m scope .start acl.entries
  rw [← firstUnknown?] at hending
  cases hunknown : acl.firstUnknown? with
  | some raw =>
      rw [hunknown] at hending
      rw [pass, Traced.bind_of_error (e := .malformedAcl path (.unknownTag raw))
        (by simp only [Traced.mapError, hending])]
      simpa using hwalk
  | none =>
      rw [hunknown] at hending
      rw [pass, Traced.bind_of_value (a := Tally.start.over m scope acl.entries)
        (by simp only [Traced.mapError, hending])]
      simp only [Traced.mapError_trace, hwalk]
      simp [findings, Tally.over, Tally.start]

end Acl

namespace AclLoad

/-- What a complete pass over what was loaded reports. -/
def passReport (m : Metadata) (scope : Scope) : AclLoad → List Event
  | .entries acl => acl.entries.map (Acl.Entry.report m scope) ++ [acl.findings m scope]
  | .unsupported => [.modePass scope.kind (.ofBool (decide (ModeBits.Permits m scope)))]

/-- What a query reports in front of its first pass: that there is no list, if
there is none. -/
def opening : AclLoad → List Event
  | .entries _ => []
  | .unsupported => [.aclUnsupported]

theorem pass_entries_trace (acl : Acl) (path : Path) (m : Metadata) (scope : Scope) :
    ((entries acl).pass path m scope).trace = (acl.pass path m scope).trace := by
  cases h : (acl.pass path m scope).ending with
  | error e => rw [pass, Traced.bind_of_error h]
  | ok verdict => rw [pass, Traced.bind_of_value h]; simp

theorem pass_entries_trace_of_known {acl : Acl} (h : acl.firstUnknown? = none) (path : Path)
    (m : Metadata) (scope : Scope) :
    ((entries acl).pass path m scope).trace = (entries acl).passReport m scope := by
  rw [pass_entries_trace, Acl.pass_trace, Acl.known_of_firstUnknown?_eq_none h, h]
  rfl

end AclLoad

theorem ModeBits.pass_trace {ε : Type} (m : Metadata) (scope : Scope) :
    (ModeBits.pass m scope : Traced Event ε Verdict).trace =
      AclLoad.unsupported.passReport m scope := by
  have hending := ModeBits.pass_ending (ε := ε) m scope
  have hverdict : Verdict.ofBool (ModeBits.allows m scope) =
      .ofBool (decide (ModeBits.Permits m scope)) := Except.ok.inj hending
  rw [AclLoad.passReport, ← hverdict]
  rfl

end ReadAccess
