/-
  Quoted forms: a character or a text between quotes, with everything that
  would not show plainly written as an escape.
-/
import ReadAccess.Text.RawText
import ReadAccess.Text.Numeral
import ReadAccess.Text.Combining
import ReadAccess.Text.Invisible

set_option autoImplicit false

namespace ReadAccess.Text

/-- A code point escape: the number in small hexadecimal digits, in braces. -/
def codePointEscape (c : Char) : String :=
  "\\u\x7b" ++ hexadecimal c.toNat ++ "\x7d"

/-- A character as it stands between two marks `mark`: a backslash goes before
the mark and the backslash, common controls have short escapes, and combining
and invisible characters are written by number. -/
def escapeChar (mark : Char) (c : Char) : String :=
  if c = '\x00' then "\\0"
  else if c = '\t' then "\\t"
  else if c = '\r' then "\\r"
  else if c = '\n' then "\\n"
  else if c = '\\' then "\\\\"
  else if c = mark then "\\" ++ c.toString
  else if isCombining c || isInvisible c then codePointEscape c
  else c.toString

/-- A byte in two capital hexadecimal digits. -/
def byteEscape (b : UInt8) : String :=
  let digits := (Nat.toDigits 16 b.toNat).map Char.toUpper
  "\\x" ++ String.ofList (if digits.length < 2 then '0' :: digits else digits)

def quotedChar (c : Char) : String := "'" ++ escapeChar '\'' c ++ "'"

/-- A unit of a text as it stands between double quotes. -/
def escapeGlyph : RawText.Glyph → String
  | .character c => escapeChar '"' c
  | .broken bytes => String.join (bytes.map byteEscape)

def RawText.quoted (t : RawText) : String :=
  "\"" ++ String.join (t.glyphs.map escapeGlyph) ++ "\""

end ReadAccess.Text
