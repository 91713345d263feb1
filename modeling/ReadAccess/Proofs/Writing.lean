/-
  What sinks take.

  Stretches of text are written one after the other, and a sink takes them whole up to the
  first one that fails, of which it may take a part.  So what it takes is a prefix of the
  text, and all of it exactly if no write fails (`Sink.writeAll_takes`).
-/
import Mathlib.Data.List.Infix
import ReadAccess.CommandLine.Sink

set_option autoImplicit false

namespace ReadAccess.CommandLine

open Text (RawText)

/-- What was taken of a text is a prefix of it, and the text itself if the write succeeded. -/
structure Write.Takes (w : Write) (text : RawText) : Prop where
  isPrefix : w.accepted.bytes <+: text.bytes
  complete_iff : w.complete = true ↔ w.accepted = text

namespace Sink

theorem write_takes (s : Sink) (text : String) : (s.write text).Takes (.ofString text) := by
  unfold write
  dsimp only
  split
  · exact ⟨List.prefix_refl _, by simp⟩
  · next hsome =>
    match s with
    | .endless => exact ⟨List.prefix_refl _, by simp⟩
    | .lines 0 =>
        refine ⟨List.nil_prefix, by simp, fun heq => ?_⟩
        rw [← heq] at hsome
        exact absurd rfl hsome
    | .lines (n + 1) => exact ⟨List.prefix_refl _, by simp⟩
    | .bytes n =>
        refine ⟨List.take_prefix _ _, ?_⟩
        rw [decide_eq_true_iff, ← List.take_eq_self_iff]
        exact ⟨congrArg RawText.mk, congrArg RawText.bytes⟩

/-- Of two lists of stretches the second is written if no write of the first fails. -/
theorem writeAll_append (s : Sink) (first second : List String) :
    s.writeAll (first ++ second) =
      if (s.writeAll first).complete then
        { (s.writeAll first).sink.writeAll second with
          accepted := (s.writeAll first).accepted.append
            ((s.writeAll first).sink.writeAll second).accepted }
      else s.writeAll first := by
  induction first generalizing s with
  | nil => rfl
  | cons piece rest ih =>
      rw [List.cons_append, writeAll, writeAll]
      cases hpiece : (s.write piece).complete with
      | false => simp [hpiece]
      | true =>
          simp only [if_true]
          rw [ih]
          split <;> simp [RawText.append]

theorem complete_writeAll_append_iff {s : Sink} {first second : List String} :
    (s.writeAll (first ++ second)).complete = true ↔
      (s.writeAll first).complete = true ∧
        ((s.writeAll first).sink.writeAll second).complete = true := by
  rw [writeAll_append]
  split <;> simp [*]

theorem sink_writeAll_append {s : Sink} {first second : List String}
    (hfirst : (s.writeAll first).complete = true) :
    (s.writeAll (first ++ second)).sink = ((s.writeAll first).sink.writeAll second).sink := by
  rw [writeAll_append, if_pos hfirst]

theorem writeAll_append_of_cut {s : Sink} {first : List String}
    (hfirst : (s.writeAll first).complete = false) (second : List String) :
    s.writeAll (first ++ second) = s.writeAll first := by
  rw [writeAll_append, if_neg (Bool.eq_false_iff.mp hfirst)]

/-- **What a sink takes of several stretches is a prefix of them**, and all of them exactly if
no write fails. -/
theorem writeAll_takes (s : Sink) (pieces : List String) :
    (s.writeAll pieces).Takes (.ofString (String.join pieces)) := by
  induction pieces generalizing s with
  | nil => exact ⟨List.prefix_refl _, iff_of_true rfl rfl⟩
  | cons piece rest ih =>
      obtain ⟨hpart, hcomplete⟩ := s.write_takes piece
      rw [String.join_cons, RawText.ofString_append, writeAll]
      cases hpiece : (s.write piece).complete with
      | true =>
          obtain ⟨hparts, hcomplete'⟩ := ih (s.write piece).sink
          rw [hcomplete.mp hpiece]
          refine ⟨(List.prefix_append_right_inj _).mpr hparts,
            hcomplete'.trans ⟨?_, fun heq => ?_⟩⟩
          · exact congrArg (RawText.append _)
          · exact congrArg RawText.mk (List.append_cancel_left (congrArg RawText.bytes heq))
      | false =>
          refine ⟨hpart.trans (List.prefix_append _ _),
            iff_of_false (by simp [hpiece]) fun heq => ?_⟩
          -- What was taken is a part of the first piece, and cannot be more than that.
          have htaken : (s.write piece).accepted =
              (RawText.ofString piece).append (.ofString (String.join rest)) := heq
          have hlonger : (RawText.ofString piece).bytes <+: (s.write piece).accepted.bytes := by
            rw [htaken]
            exact List.prefix_append _ _
          have hall := hpart.eq_of_length_le hlonger.length_le
          rw [hcomplete.mpr (congrArg RawText.mk hall)] at hpiece
          cases hpiece

/-! ## Sinks with a limit -/

/-- A text written where there is room for this many more bytes. -/
def writeUpTo (n : Nat) (text : RawText) : Write :=
  ⟨⟨text.bytes.take n⟩, .bytes (n - text.bytes.length), text.bytes.length ≤ n⟩

/-- A text comes behind another one if there was room for that one. -/
theorem writeUpTo_append (n : Nat) (text more : RawText) :
    writeUpTo n (text.append more) =
      if text.bytes.length ≤ n then
        { writeUpTo (n - text.bytes.length) more with
          accepted := text.append (writeUpTo (n - text.bytes.length) more).accepted }
      else writeUpTo n text := by
  obtain ⟨xs⟩ := text
  obtain ⟨ys⟩ := more
  simp only [writeUpTo, RawText.append, List.length_append, List.take_append]
  split
  · next hxs =>
    have hfits : ys.length ≤ n - xs.length ↔ xs.length + ys.length ≤ n := by omega
    simp [hfits, List.take_of_length_le hxs, Nat.sub_sub]
  · next hxs =>
    have hfull : n - xs.length = 0 ∧ n - (xs.length + ys.length) = 0 := by omega
    have hlonger : ¬ xs.length + ys.length ≤ n := by omega
    simp [hfull, hlonger, hxs]

theorem write_bytes (n : Nat) (text : String) :
    (bytes n).write text = writeUpTo n (.ofString text) := by
  unfold write
  dsimp only
  split
  · next hnil =>
    generalize RawText.ofString text = taken at hnil ⊢
    obtain ⟨_⟩ := taken
    obtain rfl := List.isEmpty_iff.mp hnil
    simp [writeUpTo]
  · rfl

/-- A sink with a limit takes as much of several stretches as it has room for. -/
theorem writeAll_bytes (n : Nat) (pieces : List String) :
    (bytes n).writeAll pieces = writeUpTo n (.ofString (String.join pieces)) := by
  induction pieces generalizing n with
  | nil => simp [writeAll, writeUpTo, RawText.ofString]
  | cons piece rest ih =>
      rw [String.join_cons, RawText.ofString_append, writeUpTo_append, writeAll, write_bytes, ← ih]
      split
      · next hwhole =>
        have hfits := of_decide_eq_true hwhole
        have htaken : (writeUpTo n (.ofString piece)).accepted = .ofString piece :=
          congrArg RawText.mk (List.take_of_length_le hfits)
        rw [if_pos hfits, htaken]
        rfl
      · next hpart =>
        rw [if_neg (by simpa [writeUpTo] using hpart)]

end Sink

end ReadAccess.CommandLine
