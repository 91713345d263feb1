/-
  Text as the system hands it over: a list of bytes that is usually, but not
  always, valid UTF-8.  Paths, arguments and the names in the user and group
  tables are such texts.
-/
set_option autoImplicit false

namespace ReadAccess.Text

/-- A text made of bytes.  Two texts are the same only if their bytes are. -/
structure RawText where
  bytes : List UInt8
  deriving DecidableEq, Repr, Inhabited

namespace RawText

/-! ## Text that is valid UTF-8 -/

def ofString (s : String) : RawText := ⟨s.toByteArray.data.toList⟩

/-- The characters a text encodes, if its bytes are valid UTF-8. -/
def toString? (t : RawText) : Option String := String.fromUTF8? ⟨t.bytes.toArray⟩

@[simp] theorem toString?_ofString (s : String) : (ofString s).toString? = some s := by
  have h : (⟨s.toByteArray.data.toList.toArray⟩ : ByteArray) = s.toByteArray := by simp
  simp only [toString?, ofString, h]
  simp [String.fromUTF8?, s.isValidUTF8, String.fromUTF8]

theorem eq_ofString_of_toString? {t : RawText} {s : String} (h : t.toString? = some s) :
    t = ofString s := by
  simp only [toString?, String.fromUTF8?] at h
  split at h
  · next hv =>
    obtain ⟨bytes⟩ := t
    have hs : s = String.fromUTF8 ⟨bytes.toArray⟩ hv := (Option.some.inj h).symm
    subst hs
    simp [ofString, String.fromUTF8]
  · exact absurd h (by simp)

/-- Reading a text as a string succeeds exactly on the bytes of that string. -/
theorem toString?_eq_some_iff {t : RawText} {s : String} :
    t.toString? = some s ↔ t = ofString s :=
  ⟨eq_ofString_of_toString?, fun h => h ▸ toString?_ofString s⟩

theorem ofString_injective {s t : String} (h : ofString s = ofString t) : s = t :=
  Option.some.inj ((toString?_ofString s).symm.trans ((congrArg toString? h).trans
    (toString?_ofString t)))

/-! ## Text that may be damaged -/

/-- What the first byte of a character promises: how many bytes follow, and the
range of the one right after it. -/
structure Lead where
  tails : Nat
  low : UInt8
  high : UInt8
  /-- The bits of the character that the first byte holds. -/
  bits : Nat
  deriving DecidableEq, Repr

/-- The promise of a first byte, and none for a byte that starts no character.
The narrowed ranges rule out overlong forms, surrogates and values above the
last code point. -/
def lead? (b : UInt8) : Option Lead :=
  if b < 0x80 then some ⟨0, 0x80, 0xBF, b.toNat⟩
  else if 0xC2 ≤ b && b ≤ 0xDF then some ⟨1, 0x80, 0xBF, b.toNat % 32⟩
  else if b == 0xE0 then some ⟨2, 0xA0, 0xBF, b.toNat % 16⟩
  else if b == 0xED then some ⟨2, 0x80, 0x9F, b.toNat % 16⟩
  else if 0xE1 ≤ b && b ≤ 0xEF then some ⟨2, 0x80, 0xBF, b.toNat % 16⟩
  else if b == 0xF0 then some ⟨3, 0x90, 0xBF, b.toNat % 8⟩
  else if b == 0xF4 then some ⟨3, 0x80, 0x8F, b.toNat % 8⟩
  else if 0xF1 ≤ b && b ≤ 0xF3 then some ⟨3, 0x80, 0xBF, b.toNat % 8⟩
  else none

/-- The bytes of `rest` that keep a promise of `n` more bytes, the first of them
between `low` and `high`. -/
def keptTails : Nat → UInt8 → UInt8 → List UInt8 → List UInt8
  | 0, _, _, _ => []
  | _ + 1, _, _, [] => []
  | n + 1, low, high, b :: rest =>
      if low ≤ b && b ≤ high then b :: keptTails n 0x80 0xBF rest else []

/-- A unit of a text: one character, or a maximal run of bytes that starts a
character and does not finish it. -/
inductive Glyph where
  | character (c : Char)
  | broken (bytes : List UInt8)
  deriving DecidableEq, Repr

/-- The unit that the byte `b` starts when `rest` follows, with the number of
bytes of `rest` that belong to it. -/
def firstGlyph (b : UInt8) (rest : List UInt8) : Glyph × Nat :=
  match lead? b with
  | none => (.broken [b], 0)
  | some lead =>
      let tails := keptTails lead.tails lead.low lead.high rest
      if tails.length = lead.tails then
        (.character (Char.ofNat (tails.foldl (fun acc t => acc * 64 + t.toNat % 64) lead.bits)),
          tails.length)
      else (.broken (b :: tails), tails.length)

def glyphsOf (bytes : List UInt8) : List Glyph :=
  match bytes with
  | [] => []
  | b :: rest => (firstGlyph b rest).1 :: glyphsOf (rest.drop (firstGlyph b rest).2)
termination_by bytes.length
decreasing_by simp only [List.length_cons, List.length_drop]; omega

/-- The units of a text: its characters if it is valid. -/
def glyphs (t : RawText) : List Glyph :=
  match t.toString? with
  | some s => s.toList.map .character
  | none => glyphsOf t.bytes

/-- The stretches in which units are shown: runs of characters as they are, and
one replacement character for each broken unit.  `pending` holds, in reverse,
the characters of the run that is still open. -/
def stretches (pending : List Char) : List Glyph → List String
  | [] => if pending.isEmpty then [] else [String.ofList pending.reverse]
  | .character c :: rest => stretches (c :: pending) rest
  | .broken _ :: rest =>
      if pending.isEmpty then "\uFFFD" :: stretches [] rest
      else String.ofList pending.reverse :: "\uFFFD" :: stretches [] rest

def pieces (t : RawText) : List String := stretches [] t.glyphs

/-- The text as it is shown, with a replacement character for every broken
unit. -/
def shown (t : RawText) : String := String.join t.pieces

/-- Characters alone make one stretch, or none if there are no characters. -/
theorem stretches_characters (pending cs : List Char) :
    stretches pending (cs.map .character) =
      if (pending.reverse ++ cs).isEmpty then [] else [String.ofList (pending.reverse ++ cs)] := by
  induction cs generalizing pending with
  | nil => cases pending <;> simp [stretches]
  | cons c rest ih => simp [stretches, ih]

@[simp] theorem shown_ofString (s : String) : (ofString s).shown = s := by
  simp only [shown, pieces, glyphs, toString?_ofString, stretches_characters]
  split
  · next h =>
    have hs : s = "" := String.toList_inj.mp (by simpa using h)
    subst hs
    rfl
  · simp [String.join]

/-! ## Bytes that matter -/

/-- Whether the text holds a NUL byte, which no name or path handed to the
system may hold. -/
def hasNul (t : RawText) : Bool := t.bytes.contains 0

def append (t u : RawText) : RawText := ⟨t.bytes ++ u.bytes⟩

theorem ofString_append (s t : String) : ofString (s ++ t) = (ofString s).append (ofString t) := by
  refine congrArg RawText.mk ?_
  simp [ofString, String.toByteArray_append]

/-- How many lines a text ends. -/
def newlines (t : RawText) : Nat := t.bytes.count 10

end RawText

end ReadAccess.Text
