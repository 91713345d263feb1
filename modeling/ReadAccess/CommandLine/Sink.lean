/-
  Outputs that may fail: a sink takes text until its limit is reached, and
  nothing from then on.
-/
import ReadAccess.Text.RawText

set_option autoImplicit false

namespace ReadAccess.CommandLine

open Text (RawText)

/-- Where output goes, with what is left of its limit. -/
inductive Sink where
  | endless
  /-- Text is taken, a stretch at a time, until this many more lines have
  ended. -/
  | lines (left : Nat)
  | bytes (left : Nat)
  deriving DecidableEq, Repr

/-- What writing did. -/
structure Write where
  accepted : RawText
  sink : Sink
  complete : Bool
  deriving DecidableEq, Repr

namespace Sink

/-- One stretch of text written to a sink.  Nothing is nothing to refuse. -/
def write (s : Sink) (text : String) : Write :=
  let t := RawText.ofString text
  if t.bytes.isEmpty then ⟨t, s, true⟩
  else
    match s with
    | .endless => ⟨t, .endless, true⟩
    | .lines 0 => ⟨⟨[]⟩, .lines 0, false⟩
    | .lines (n + 1) => ⟨t, .lines (n + 1 - t.newlines), true⟩
    | .bytes n => ⟨⟨t.bytes.take n⟩, .bytes (n - t.bytes.length), t.bytes.length ≤ n⟩

/-- Several stretches written one after the other, up to the first one that is
not taken whole. -/
def writeAll (s : Sink) : List String → Write
  | [] => ⟨⟨[]⟩, s, true⟩
  | piece :: rest =>
      let first := s.write piece
      if first.complete then
        let more := first.sink.writeAll rest
        { more with accepted := first.accepted.append more.accepted }
      else first

theorem write_endless (text : String) :
    endless.write text = ⟨RawText.ofString text, .endless, true⟩ := by
  simp only [write, ite_self]

theorem writeAll_endless (pieces : List String) :
    endless.writeAll pieces = ⟨RawText.ofString (String.join pieces), .endless, true⟩ := by
  induction pieces with
  | nil => rfl
  | cons piece rest ih =>
      rw [writeAll, write_endless, if_pos rfl, ih, String.join_cons, RawText.ofString_append]

end Sink

end ReadAccess.CommandLine
