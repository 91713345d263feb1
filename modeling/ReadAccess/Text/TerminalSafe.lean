/-
  Text that a terminal shows and does not obey: every character that can begin
  or end a command for it is written by its number.
-/
import ReadAccess.Text.Numeral

set_option autoImplicit false

namespace ReadAccess.Text

/-- Whether a character can begin or end a command for a terminal: bell,
backspace, form feed, escape, delete, and the control characters above them. -/
def steersTerminal (c : Char) : Bool :=
  c == '\x07' || c == '\x08' || c == '\x0c' || c == '\x1b' || c == '\x7f' ||
    (0x80 ≤ c.toNat && c.toNat ≤ 0x9F)

/-- The number of a character behind a backslash: two digits for a character of
one byte, and digits in braces for any other. -/
def numberEscape (c : Char) : String :=
  if c.toNat < 0x10 then "\\x0" ++ hexadecimal c.toNat
  else if c.toNat < 0x80 then "\\x" ++ hexadecimal c.toNat
  else "\\u\x7b" ++ hexadecimal c.toNat ++ "\x7d"

/-- A text with every character that steers a terminal written by its
number. -/
def terminalSafe (s : String) : String :=
  String.join (s.toList.map fun c => if steersTerminal c then numberEscape c else c.toString)

end ReadAccess.Text
