/-
  Text without terminal control sequences.

  What a terminal would take as a command is left out of a text: sequences that
  an escape character begins, and control characters.  White space stays.
-/
set_option autoImplicit false

namespace ReadAccess.Text

/-- Where the reading of a text stands with respect to control sequences. -/
inductive ControlMode where
  | outside
  | escape
  /-- Behind an escape character and the intermediate characters of a short
  sequence. -/
  | intermediate
  /-- Within a sequence with parameters. -/
  | parameters
  /-- Within a string that a bell ends. -/
  | command
  /-- At the head of a string for a device. -/
  | device
  | deviceParameters
  | deviceIntermediate
  /-- Within a string that only a terminator ends. -/
  | string
  deriving DecidableEq, Repr

/-- Whether a character is a control character that only moves the place of
writing: a tab, a line feed, a form feed or a carriage return. -/
def isSpacing (c : Char) : Bool := c == '\t' || c == '\n' || c == '\x0c' || c == '\r'

def isControl (c : Char) : Bool := c.toNat < 0x20 || c == '\x7f'

/-- The place behind the character that follows an escape character. -/
def ControlMode.afterEscape (c : Char) : ControlMode :=
  if c.toNat ≤ 0x2F then .intermediate
  else if c = '[' then .parameters
  else if c = ']' then .command
  else if c = 'P' then .device
  else if c = 'X' ∨ c = '^' ∨ c = '_' then .string
  else .outside

/-- The place behind a character of the head of a string for a device: digits,
colons and semicolons are parameters, a private mark may stand before them, and
intermediate characters come last.  Anything else begins the string. -/
def ControlMode.afterDevice (mode : ControlMode) (c : Char) : ControlMode :=
  if isControl c then mode
  else if c.toNat ≤ 0x2F then .deviceIntermediate
  else if mode = .deviceIntermediate then .string
  else if c.isDigit ∨ c = ':' ∨ c = ';' then .deviceParameters
  else if mode = .device ∧ 0x3C ≤ c.toNat ∧ c.toNat ≤ 0x3F then .deviceParameters
  else .string

/-- The place behind the next character of a sequence, if the sequence takes
it. -/
def ControlMode.next? (mode : ControlMode) (c : Char) : Option ControlMode :=
  match mode with
  | .outside => if isControl c && !isSpacing c then some .outside else none
  | .command => some (if c = '\x07' then .outside else .command)
  | .string => some .string
  | .escape =>
      if isSpacing c then none else some (if isControl c then .escape else .afterEscape c)
  | .intermediate =>
      if isSpacing c then none
      else some (if isControl c || c.toNat ≤ 0x2F then .intermediate else .outside)
  | .parameters =>
      if isSpacing c then none
      else some (if isControl c || c.toNat ≤ 0x3F then .parameters else .outside)
  | .device => some (ControlMode.afterDevice .device c)
  | .deviceParameters => some (ControlMode.afterDevice .deviceParameters c)
  | .deviceIntermediate => some (ControlMode.afterDevice .deviceIntermediate c)

/-- Whether the bytes of a character hold the byte that terminates a string. -/
def holdsTerminator (c : Char) : Bool := (String.utf8EncodeChar c).contains 0x9C

/-- The place behind a character of more than one byte, if a sequence takes it.
Such characters mean nothing to a sequence, but their bytes can terminate a
string. -/
def ControlMode.wideNext? (mode : ControlMode) (c : Char) : Option ControlMode :=
  match mode with
  | .outside => none
  | .string => some (if holdsTerminator c then .outside else .string)
  | mode => some mode

/-- The characters that stay of a text that is read from `mode` on.  An escape
character begins a sequence everywhere, and cancelling ends one everywhere. -/
def withoutControls : ControlMode → List Char → List Char
  | _, [] => []
  | mode, c :: rest =>
      if c = '\x1b' then withoutControls .escape rest
      else if c = '\x18' ∨ c = '\x1a' then withoutControls .outside rest
      else
        match if c.toNat < 0x80 then mode.next? c else mode.wideNext? c with
        | some mode => withoutControls mode rest
        | none => c :: withoutControls .outside rest

end ReadAccess.Text
