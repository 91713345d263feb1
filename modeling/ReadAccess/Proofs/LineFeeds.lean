/-
  Line feeds in text, and in what text is shown as.

  In UTF-8 the byte of a line feed is part of no other character, and what stands for damage is
  no line feed.  So a text that is shown has as many line feeds as it has such bytes
  (`RawText.newlines_shown`), and it makes as many lines (`RawText.length_endedLines`).
-/
import Mathlib.Data.List.Count
import ReadAccess.Text.RawText
import ReadAccess.Text.Split

set_option autoImplicit false

namespace ReadAccess.Text

/-! ## Stretches that separators end -/

section Stretches

variable {α β : Type} [DecidableEq α] (sep : α)

/-- What is no separator goes to the first stretch. -/
theorem exists_splitOn_cons {a : α} (ha : a ≠ sep) (rest : List α) :
    ∃ first more, splitOn sep rest = first :: more ∧
      splitOn sep (a :: rest) = (a :: first) :: more := by
  obtain ⟨first, more, hrest⟩ := List.exists_cons_of_ne_nil (splitOn_ne_nil sep rest)
  exact ⟨first, more, hrest, by rw [splitOn, if_neg ha, hrest]⟩

theorem length_splitOn (xs : List α) : (splitOn sep xs).length = xs.count sep + 1 := by
  induction xs with
  | nil => rfl
  | cons a rest ih =>
      by_cases ha : a = sep
      · rw [splitOn, if_pos ha, List.length_cons, ih, ha, List.count_cons_self]
      · obtain ⟨first, more, hrest, hcons⟩ := exists_splitOn_cons sep ha rest
        rw [hcons, List.count_cons_of_ne ha, ← ih, hrest]
        rfl

/-- A list with a separator at its end is made up of its stretches, each of them with a separator
behind it. -/
theorem flatMap_splitOn_ended (xs : List α) :
    (splitOn sep xs).flatMap (fun stretch => stretch ++ [sep]) = xs ++ [sep] := by
  induction xs with
  | nil => rfl
  | cons a rest ih =>
      by_cases ha : a = sep
      · rw [splitOn, if_pos ha, List.flatMap_cons, ih, ha]
        rfl
      · obtain ⟨first, more, hrest, hcons⟩ := exists_splitOn_cons sep ha rest
        rw [hcons, List.cons_append, ← ih, hrest]
        rfl

/-- Lists that are each ended by a separator are split into the stretches of all of them, and
nothing stands behind the last separator. -/
theorem splitOn_flatMap_ended (f : β → List α) (bs : List β) :
    splitOn sep (bs.flatMap fun b => f b ++ [sep]) =
      bs.flatMap (fun b => splitOn sep (f b)) ++ [[]] := by
  induction bs with
  | nil => rfl
  | cons b rest ih =>
      rw [List.flatMap_cons, List.append_assoc, List.singleton_append, splitOn_append_sep, ih,
        List.flatMap_cons, List.append_assoc]

end Stretches

namespace RawText

/-! ## The line feeds of a string -/

theorem bytes_ofString (s : String) :
    (ofString s).bytes = s.toList.flatMap String.utf8EncodeChar := by
  rw [ofString, ← String.utf8Encode_toList, List.utf8Encode]
  simp

theorem bytes_ofString_join (pieces : List String) :
    (ofString (String.join pieces)).bytes = pieces.flatMap fun piece => (ofString piece).bytes := by
  induction pieces with
  | nil => rfl
  | cons piece rest ih =>
      rw [String.join_cons, ofString_append, List.flatMap_cons, ← ih]
      rfl

/-- A character of several bytes is encoded with none that can stand alone. -/
theorem high_of_mem_utf8EncodeChar {c : Char} (hc : 128 ≤ c.val.toNat) :
    ∀ b ∈ String.utf8EncodeChar c, 128 ≤ b.toNat := by
  have hhigh : ∀ n, 128 ≤ n → n < 256 → 128 ≤ (UInt8.ofNat n).toNat := by
    intro n hlow hlt
    rwa [UInt8.toNat_ofNat', Nat.mod_eq_of_lt hlt]
  rw [String.utf8EncodeChar, if_neg (by omega)]
  split_ifs <;> simp only [List.forall_mem_cons]
  · exact ⟨hhigh _ (by omega) (by omega), hhigh _ (by omega) (by omega), nofun⟩
  · exact ⟨hhigh _ (by omega) (by omega), hhigh _ (by omega) (by omega),
      hhigh _ (by omega) (by omega), nofun⟩
  · exact ⟨hhigh _ (by omega) (by omega), hhigh _ (by omega) (by omega),
      hhigh _ (by omega) (by omega), hhigh _ (by omega) (by omega), nofun⟩

/-- Only a line feed is encoded with the byte of a line feed. -/
theorem count_utf8EncodeChar (c : Char) :
    (String.utf8EncodeChar c).count 10 = [c].count '\n' := by
  obtain hlow | hhigh := Nat.lt_or_ge c.val.toNat 128
  · have hone : c.utf8Size = 1 := by
      rw [Char.utf8Size_eq_one_iff, UInt32.le_iff_toNat_le]
      exact Nat.le_of_lt_succ hlow
    have hfeed : c.val.toUInt8 = 10 ↔ c = '\n' := by
      rw [← UInt8.toNat_inj, ← Char.toNat_inj, UInt32.toNat_toUInt8, Nat.mod_eq_of_lt (by omega)]
      rfl
    rw [String.utf8EncodeChar_eq_singleton hone]
    simp only [List.count_singleton, beq_iff_eq, hfeed]
  · have hbytes : 10 ∉ String.utf8EncodeChar c := fun hmem =>
      absurd (high_of_mem_utf8EncodeChar hhigh 10 hmem) (by decide)
    have hother : '\n' ∉ [c] := by
      intro hmem
      obtain rfl := List.mem_singleton.mp hmem
      exact absurd hhigh (by decide)
    rw [List.count_eq_zero.mpr hbytes, List.count_eq_zero.mpr hother]

theorem newlines_ofString (s : String) : (ofString s).newlines = s.toList.count '\n' := by
  rw [newlines, bytes_ofString]
  induction s.toList with
  | nil => rfl
  | cons c rest ih =>
      rw [List.flatMap_cons, List.count_append, ih, count_utf8EncodeChar, ← List.count_append]
      rfl

/-! ## The line feeds of a unit -/

theorem ofNat_eq_feed_iff {n : Nat} : Char.ofNat n = '\n' ↔ n = 10 := by
  constructor
  · intro h
    by_cases hn : n.isValidChar
    · rw [Char.ofNat, dif_pos hn] at h
      exact congrArg Char.toNat h
    · rw [Char.ofNat, dif_neg hn] at h
      exact absurd h (by decide)
  · rintro rfl
    rfl

/-- More bytes are promised.  None of them can stand alone, and already the first one makes up a
number above that of a line feed. -/
structure Lead.IsLong (lead : Lead) : Prop where
  tails_pos : 0 < lead.tails
  le_low : 128 ≤ lead.low.toNat
  high_lt : lead.high.toNat < 192
  le_value : 16 ≤ lead.bits * 64 + lead.low.toNat % 64

/-- A byte that starts a character is all of it, or cannot stand alone and promises more. -/
theorem lead?_eq_some {b : UInt8} {lead : Lead} (h : lead? b = some lead) :
    (b.toNat < 128 ∧ lead = ⟨0, 0x80, 0xBF, b.toNat⟩) ∨ (128 ≤ b.toNat ∧ lead.IsLong) := by
  simp only [lead?, Bool.and_eq_true, decide_eq_true_eq, beq_iff_eq, UInt8.le_iff_toNat_le,
    UInt8.lt_iff_toNat_lt, ← UInt8.toNat_inj, UInt8.reduceToNat] at h
  split_ifs at h <;> obtain rfl := Option.some.inj h
  · exact .inl ⟨by omega, rfl⟩
  all_goals
    refine .inr ⟨by omega, ?_⟩
    constructor <;> simp only [UInt8.reduceToNat] <;> omega

theorem keptTails_isPrefix (n : Nat) (low high : UInt8) (rest : List UInt8) :
    keptTails n low high rest <+: rest := by
  induction n, low, high, rest using keptTails.induct with
  | case1 => exact List.nil_prefix
  | case2 => exact List.nil_prefix
  | case3 n low high b rest hb ih =>
      rw [keptTails, if_pos hb]
      exact (List.prefix_cons_inj b).mpr ih
  | case4 n low high b rest hb =>
      rw [keptTails, if_neg hb]
      exact List.nil_prefix

section Tails

variable {n : Nat} {low high : UInt8} {rest : List UInt8}

theorem high_of_mem_keptTails (hlow : 128 ≤ low.toNat) :
    ∀ t ∈ keptTails n low high rest, 128 ≤ t.toNat := by
  induction n, low, high, rest using keptTails.induct with
  | case1 => exact nofun
  | case2 => exact nofun
  | case3 n low high b rest hb ih =>
      rw [keptTails, if_pos hb, List.forall_mem_cons]
      simp only [Bool.and_eq_true, decide_eq_true_eq, UInt8.le_iff_toNat_le] at hb
      exact ⟨Nat.le_trans hlow hb.1, ih (by decide)⟩
  | case4 n low high b rest hb =>
      rw [keptTails, if_neg hb]
      exact nofun

/-- The first byte that is kept is in the promised range. -/
theorem head_keptTails {t : UInt8} {more : List UInt8}
    (h : keptTails n low high rest = t :: more) : low.toNat ≤ t.toNat ∧ t.toNat ≤ high.toNat := by
  match n, rest with
  | 0, _ => cases h
  | _ + 1, [] => cases h
  | n + 1, b :: rest =>
      rw [keptTails] at h
      split at h
      · next hb =>
        obtain ⟨rfl, -⟩ := List.cons.inj h
        simpa only [Bool.and_eq_true, decide_eq_true_eq, UInt8.le_iff_toNat_le] using hb
      · cases h

end Tails

theorem le_foldl_tails (tails : List UInt8) (start : Nat) :
    start ≤ tails.foldl (fun acc t => acc * 64 + t.toNat % 64) start := by
  induction tails generalizing start with
  | nil => exact Nat.le_refl _
  | cons t rest ih =>
      rw [List.foldl_cons]
      exact Nat.le_trans (by omega) (ih _)

/-- The character as which a unit is shown. -/
def Glyph.mark : Glyph → Char
  | .character c => c
  | .broken _ => '\uFFFD'

/-- Bytes that keep a promise make up no line feed. -/
theorem mark_of_keptTails {lead : Lead} (hlong : lead.IsLong) {rest : List UInt8}
    (hall : (keptTails lead.tails lead.low lead.high rest).length = lead.tails) :
    Glyph.mark (.character (Char.ofNat ((keptTails lead.tails lead.low lead.high rest).foldl
      (fun acc t => acc * 64 + t.toNat % 64) lead.bits))) ≠ '\n' := by
  obtain ⟨htails, hlow, hhigh, hvalue⟩ := hlong
  intro hmark
  have hten := ofNat_eq_feed_iff.mp hmark
  cases htaken : keptTails lead.tails lead.low lead.high rest with
  | nil =>
      rw [htaken, List.length_nil] at hall
      omega
  | cons t more =>
      have hrange := head_keptTails htaken
      have hle := le_foldl_tails more (lead.bits * 64 + t.toNat % 64)
      rw [htaken, List.foldl_cons] at hten
      omega

/-- A unit is shown as a line feed exactly if it is one. -/
theorem count_mark_firstGlyph (b : UInt8) (rest : List UInt8) :
    [(firstGlyph b rest).1.mark].count '\n' =
      (b :: rest.take (firstGlyph b rest).2).count 10 := by
  cases hlead : lead? b with
  | none =>
      have hb : 10 ∉ [b] := by
        intro hmem
        obtain rfl := List.mem_singleton.mp hmem
        cases hlead
      simp only [firstGlyph, hlead, List.take_zero, List.count_eq_zero.mpr hb]
      rfl
  | some lead =>
      simp only [firstGlyph, hlead]
      obtain ⟨-, rfl⟩ | ⟨hb, hlong⟩ := lead?_eq_some hlead
      · simp only [keptTails, List.length_nil, if_true, List.foldl_nil, List.take_zero, Glyph.mark,
          List.count_singleton, beq_iff_eq, ofNat_eq_feed_iff, ← UInt8.toNat_inj]
        rfl
      · have hbytes : 10 ∉ b :: keptTails lead.tails lead.low lead.high rest := by
          intro hmem
          obtain rfl | hmem := List.mem_cons.mp hmem
          · exact absurd hb (by decide)
          · exact absurd (high_of_mem_keptTails hlong.le_low 10 hmem) (by decide)
        have htake := List.prefix_iff_eq_take.mp
          (keptTails_isPrefix lead.tails lead.low lead.high rest)
        split
        · next hall =>
          have hmark := mark_of_keptTails hlong hall
          rw [← htake, List.count_eq_zero.mpr hbytes,
            List.count_eq_zero.mpr (mt List.mem_singleton.mp hmark.symm)]
        · rw [← htake, List.count_eq_zero.mpr hbytes]
          rfl

theorem count_mark_glyphsOf (bytes : List UInt8) :
    ((glyphsOf bytes).map Glyph.mark).count '\n' = bytes.count 10 := by
  induction bytes using glyphsOf.induct with
  | case1 => simp [glyphsOf]
  | case2 b rest ih =>
      rw [glyphsOf, List.map_cons, ← List.singleton_append, List.count_append, ih,
        count_mark_firstGlyph, ← List.count_append, List.cons_append, List.take_append_drop]

/-! ## Texts as they are shown -/

/-- Stretches are shown character by character. -/
theorem toList_join_stretches (pending : List Char) (glyphs : List Glyph) :
    (String.join (stretches pending glyphs)).toList = pending.reverse ++ glyphs.map Glyph.mark := by
  induction glyphs generalizing pending with
  | nil => cases pending <;> simp [stretches]
  | cons glyph rest ih =>
      cases glyph with
      | character c => simp [stretches, ih, Glyph.mark]
      | broken bytes => cases pending <;> simp_all [stretches, Glyph.mark]

/-- **A text is shown with the line feeds that it has**, whether it is valid or not. -/
theorem newlines_shown (t : RawText) : (ofString t.shown).newlines = t.newlines := by
  cases htext : t.toString? with
  | some s =>
      obtain rfl := eq_ofString_of_toString? htext
      rw [shown_ofString]
  | none =>
      rw [newlines_ofString, shown, pieces, glyphs, htext]
      dsimp only
      rw [toList_join_stretches, List.reverse_nil, List.nil_append, count_mark_glyphsOf]
      rfl

/-! ## The lines of a text -/

/-- The lines of a text: the stretches that are ended by a line feed. -/
def endedLines (t : RawText) : List RawText := (splitOn 10 t.bytes).dropLast.map mk

theorem length_endedLines (t : RawText) : t.endedLines.length = t.newlines := by
  rw [endedLines, List.length_map, List.length_dropLast, length_splitOn]
  rfl

end RawText

end ReadAccess.Text
