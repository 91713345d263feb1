/-
  Reading JSON text from left to right: white space, strings, numbers, words,
  and values that are passed over.

  A fault is reported where the reading stands, so the first one in the text
  wins.  What is wanted of a value does not matter until the value is read.
-/
import ReadAccess.Double
import ReadAccess.Text.Numeral

set_option autoImplicit false

namespace ReadAccess.Json

/-- Why a text cannot be read. -/
inductive Fault where
  | malformed
  /-- The text is JSON, but not of the wanted form. -/
  | mismatched
  | truncated
  deriving DecidableEq, Repr

/-- What reading gives: something read and the rest of the text. -/
abbrev Result (α : Type) := Except Fault (α × List Char)

/-- The text without white space in front. -/
def skipBlanks (cs : List Char) : List Char :=
  cs.dropWhile fun c => c == ' ' || c == '\n' || c == '\t' || c == '\r'

/-! ## Strings -/

/-- Where the reading of a string stands. -/
inductive Pen where
  | plain
  /-- Behind a backslash. -/
  | escape
  /-- Within a code of four digits; `leading` is the first half of a pair. -/
  | code (leading : Option Nat) (digits value : Nat)
  /-- Behind the first half of a pair. -/
  | half (leading : Nat)
  /-- Behind the first half of a pair and a backslash. -/
  | halfEscape (leading : Nat)
  deriving DecidableEq, Repr

def shortEscape? (c : Char) : Option Char :=
  match c with
  | '"' => some '"'
  | '\\' => some '\\'
  | '/' => some '/'
  | 'b' => some '\x08'
  | 'f' => some '\x0c'
  | 'n' => some '\n'
  | 'r' => some '\r'
  | 't' => some '\t'
  | _ => none

/-- What follows a complete code: the character it adds, if any, and where the
reading stands.  A code that is passed over may be any. -/
def afterCode (strict : Bool) (leading : Option Nat) (value : Nat) :
    Except Fault (Option Char × Pen) :=
  if !strict then .ok (none, .plain)
  else
    match leading with
    | none =>
        if 0xDC00 ≤ value ∧ value ≤ 0xDFFF then .error .malformed
        else if 0xD800 ≤ value ∧ value ≤ 0xDBFF then .ok (none, .half value)
        else .ok (some (Char.ofNat value), .plain)
    | some first =>
        if 0xDC00 ≤ value ∧ value ≤ 0xDFFF then
          .ok (some (Char.ofNat (0x10000 + (first - 0xD800) * 0x400 + (value - 0xDC00))), .plain)
        else .error .malformed

/-- The rest of a string after its opening quote, onto the characters `done` in
reverse.  Codes are checked only if the string is wanted. -/
def readString (strict : Bool) : Pen → List Char → List Char → Result (List Char)
  | _, _, [] => .error .truncated
  | .plain, done, c :: rest =>
      if c = '"' then .ok (done.reverse, rest)
      else if c = '\\' then readString strict .escape done rest
      else if c.toNat < 0x20 then .error .malformed
      else readString strict .plain (c :: done) rest
  | .escape, done, c :: rest =>
      if c = 'u' then readString strict (.code none 0 0) done rest
      else
        match shortEscape? c with
        | some d => readString strict .plain (d :: done) rest
        | none => .error .malformed
  | .code leading digits value, done, c :: rest =>
      match Text.hexValue? c with
      | none =>
          if digits + (String.ofList (c :: rest)).utf8ByteSize < 4 then .error .truncated
          else .error .malformed
      | some d =>
          if digits < 3 then
            readString strict (.code leading (digits + 1) (value * 16 + d)) done rest
          else
            match afterCode strict leading (value * 16 + d) with
            | .error fault => .error fault
            | .ok (none, pen) => readString strict pen done rest
            | .ok (some character, pen) => readString strict pen (character :: done) rest
  | .half leading, done, c :: rest =>
      if c = '\\' then readString strict (.halfEscape leading) done rest else .error .malformed
  | .halfEscape leading, done, c :: rest =>
      if c = 'u' then readString strict (.code (some leading) 0 0) done rest
      else .error .malformed

/-! ## Words and numbers -/

/-- The rest of a word. -/
def readWord : List Char → List Char → Except Fault (List Char)
  | [], rest => .ok rest
  | _ :: _, [] => .error .truncated
  | w :: word, c :: rest => if c = w then readWord word rest else .error .malformed

inductive Number where
  /-- A natural number, written without sign, point and exponent. -/
  | natural (n : Nat)
  | other
  deriving DecidableEq, Repr

def digitsOf (cs : List Char) : List Char × List Char :=
  (cs.takeWhile Char.isDigit, cs.dropWhile Char.isDigit)

/-- The fault of a number that goes on as `rest` where a digit must stand.  Only
a number that is wanted can be cut short. -/
def digitFault (strict : Bool) (rest : List Char) : Fault :=
  if strict && rest.isEmpty then .truncated else .malformed

/-- The whole digits of a number.  Zero stands alone. -/
def readWhole (strict : Bool) (cs : List Char) : Result (List Char) :=
  match digitsOf cs with
  | ([], rest) => .error (digitFault strict rest)
  | ('0' :: _ :: _, _) => .error .malformed
  | (digits, rest) => .ok (digits, rest)

def readFraction (strict : Bool) (cs : List Char) : Result (Option (List Char)) :=
  match cs with
  | '.' :: rest =>
      match digitsOf rest with
      | ([], more) => .error (digitFault strict more)
      | (digits, more) => .ok (some digits, more)
  | _ => .ok (none, cs)

/-- The exponent, if there is one: whether it is negative, and its digits. -/
def readExponent (strict : Bool) (cs : List Char) : Result (Option (Bool × List Char)) :=
  match cs with
  | c :: rest =>
      if c = 'e' ∨ c = 'E' then
        let negative := rest.head? == some '-'
        let rest := if negative || rest.head? == some '+' then rest.tail else rest
        match digitsOf rest with
        | ([], more) => .error (digitFault strict more)
        | (digits, more) => .ok (some (negative, digits), more)
      else .ok (none, cs)
  | [] => .ok (none, cs)

/-- The digits of a number as far as 64 bits hold them: a significand, times a
power of ten. -/
structure Significand where
  value : Nat
  scale : Int
  deriving DecidableEq, Repr

namespace Significand

def greatest : Nat := 0xFFFFFFFFFFFFFFFF

/-- The value of digits onto `value`, as long as it is not too great, and the
digits that are left over. -/
def take (value : Nat) : List Char → Nat × List Char
  | [] => (value, [])
  | c :: rest =>
      let next := 10 * value + (c.toNat - '0'.toNat)
      if next ≤ greatest then take next rest else (value, c :: rest)

/-- The significand of the digits in front of a point: each digit that is left
over makes it ten times as great. -/
def ofWhole (digits : List Char) : Significand :=
  let taken := take 0 digits
  ⟨taken.1, taken.2.length⟩

/-- The significand with the digits behind a point: each digit that is kept
makes it a tenth, and those that are left over do not count. -/
def withFraction (s : Significand) (digits : List Char) : Significand :=
  let taken := take s.value digits
  ⟨taken.1, s.scale - (digits.length - taken.2.length : Nat)⟩

def withExponent (s : Significand) (exponent : Bool × List Char) : Significand :=
  let size : Int := Nat.ofDigitChars 10 exponent.2 0
  ⟨s.value, if exponent.1 then s.scale - size else s.scale + size⟩

/-- Whether a number passes what double precision holds.  The significand and
the power of ten are rounded before they are multiplied, and no power of ten
passes by itself up to the greatest that double precision holds. -/
def isHuge (s : Significand) : Bool :=
  if s.value = 0 || s.scale < 0 then false
  else if 308 < s.scale then true
  else
    match Double.nearest? s.value 1, Double.nearest? (Nat.pow 10 s.scale.toNat) 1 with
    | some x, some y => (x.times? y).isNone
    | _, _ => true

end Significand

def isHuge (whole : List Char) (fraction : Option (List Char))
    (exponent : Option (Bool × List Char)) : Bool :=
  let s := Significand.ofWhole whole
  let s := (fraction.map s.withFraction).getD s
  ((exponent.map s.withExponent).getD s).isHuge

def readNumber (strict : Bool) (cs : List Char) : Except Fault (Number × List Char) := do
  let negative := cs.head? == some '-'
  let (whole, rest) ← readWhole strict (if negative then cs.tail else cs)
  let (fraction, rest) ← readFraction strict rest
  let (exponent, rest) ← readExponent strict rest
  if strict && isHuge whole fraction exponent then .error .malformed
  else if negative || fraction.isSome || exponent.isSome then .ok (.other, rest)
  else .ok (.natural (Nat.ofDigitChars 10 whole 0), rest)

/-! ## Values that are passed over -/

/-- A list or an object that is open. -/
inductive Frame where
  | list
  | object
  deriving DecidableEq, Repr

/-- What is expected next. -/
inductive Expected where
  | value
  | key
  | separator
  deriving DecidableEq, Repr

def skipScalar (cs : List Char) : Except Fault (List Char) :=
  match cs with
  | 'n' :: rest => readWord ['u', 'l', 'l'] rest
  | 't' :: rest => readWord ['r', 'u', 'e'] rest
  | 'f' :: rest => readWord ['a', 'l', 's', 'e'] rest
  | '"' :: rest => (readString false .plain [] rest).map Prod.snd
  | c :: _ =>
      if c == '-' || c.isDigit then (readNumber false cs).map Prod.snd else .error .malformed
  | [] => .error .truncated

def readColon (cs : List Char) : Except Fault (List Char) :=
  match skipBlanks cs with
  | ':' :: rest => .ok rest
  | [] => .error .truncated
  | _ => .error .malformed

/-- The rest behind what is open.  Every step but the last takes a character. -/
def skipOpen : Nat → Expected → List Frame → List Char → Except Fault (List Char)
  | 0, _, _, _ => .error .truncated
  | steps + 1, .value, stack, cs =>
      match skipBlanks cs with
      | '[' :: rest =>
          match skipBlanks rest with
          | ']' :: more => skipOpen steps .separator stack more
          | _ => skipOpen steps .value (.list :: stack) rest
      | '{' :: rest =>
          match skipBlanks rest with
          | '}' :: more => skipOpen steps .separator stack more
          | _ => skipOpen steps .key (.object :: stack) rest
      | scalar =>
          match skipScalar scalar with
          | .error fault => .error fault
          | .ok rest => skipOpen steps .separator stack rest
  | steps + 1, .key, stack, cs =>
      match skipBlanks cs with
      | '"' :: rest =>
          match readString false .plain [] rest with
          | .error fault => .error fault
          | .ok (_, more) =>
              match readColon more with
              | .error fault => .error fault
              | .ok rest => skipOpen steps .value stack rest
      | [] => .error .truncated
      | _ => .error .malformed
  | _ + 1, .separator, [], cs => .ok cs
  | steps + 1, .separator, frame :: stack, cs =>
      match skipBlanks cs with
      | [] => .error .truncated
      | ',' :: rest =>
          match frame with
          | .list => skipOpen steps .value (frame :: stack) rest
          | .object => skipOpen steps .key (frame :: stack) rest
      | c :: rest =>
          if c = (match frame with | .list => ']' | .object => '}') then
            skipOpen steps .separator stack rest
          else .error .malformed

def skipValue (cs : List Char) : Except Fault (List Char) :=
  skipOpen (cs.length + 2) .value [] cs

/-- The fault of a value of the wrong form: it is read first, unless it is a
list or an object. -/
def mismatch {α : Type} (cs : List Char) : Except Fault α :=
  match cs with
  | [] => .error .truncated
  | '[' :: _ => .error .mismatched
  | '{' :: _ => .error .mismatched
  | 'n' :: rest => (readWord ['u', 'l', 'l'] rest).bind fun _ => .error .mismatched
  | 't' :: rest => (readWord ['r', 'u', 'e'] rest).bind fun _ => .error .mismatched
  | 'f' :: rest => (readWord ['a', 'l', 's', 'e'] rest).bind fun _ => .error .mismatched
  | '"' :: rest => (readString true .plain [] rest).bind fun _ => .error .mismatched
  | c :: _ =>
      if c == '-' || c.isDigit then (readNumber true cs).bind fun _ => .error .mismatched
      else .error .malformed

/-! ## Records -/

/-- A field of a record that is read into a state. -/
structure Field (σ : Type) where
  name : String
  isSet : σ → Bool
  read : σ → List Char → Result σ

variable {σ : Type}

/-- The members of an object from here on.  A known field may come once, and
unknown ones are passed over. -/
def readMembers (fields : List (Field σ)) : Nat → Bool → σ → List Char → Result σ
  | 0, _, _, _ => .error .truncated
  | steps + 1, isFirst, state, cs =>
      let member (rest : List Char) : Except Fault (σ × List Char) := do
        let (name, rest) ← readString true .plain [] rest
        match fields.find? fun f => f.name.toList == name with
        | none =>
            let rest ← readColon rest
            let rest ← skipValue rest
            readMembers fields steps false state rest
        | some field =>
            if field.isSet state then .error .mismatched
            else
              let rest ← readColon rest
              let (state, rest) ← field.read state rest
              readMembers fields steps false state rest
      match skipBlanks cs with
      | [] => .error .truncated
      | '}' :: rest => .ok (state, rest)
      | '"' :: rest => if isFirst then member rest else .error .malformed
      | ',' :: rest =>
          if isFirst then .error .malformed
          else
            match skipBlanks rest with
            | '"' :: more => member more
            | [] => .error .truncated
            | _ => .error .malformed
      | _ => .error .malformed

/-- The elements of a list, one for each field in order, and the end of the
list. -/
def readElements : List (Field σ) → Bool → σ → List Char → Result σ
  | [], _, state, cs =>
      match skipBlanks cs with
      | ']' :: rest => .ok (state, rest)
      | [] => .error .truncated
      | _ => .error .malformed
  | field :: fields, isFirst, state, cs =>
      let element (rest : List Char) : Result σ :=
        match field.read state rest with
        | .error fault => .error fault
        | .ok (state, rest) => readElements fields false state rest
      match skipBlanks cs with
      | [] => .error .truncated
      | ']' :: _ => .error .mismatched
      | ',' :: rest =>
          if isFirst then element (skipBlanks cs)
          else
            match skipBlanks rest with
            | [] => .error .truncated
            | ']' :: _ => .error .malformed
            | more => element more
      | other => if isFirst then element other else .error .malformed

/-- A record: an object with its fields, or a list of them in order. -/
def readRecord (fields : List (Field σ)) (start : σ) (cs : List Char) : Result σ :=
  match skipBlanks cs with
  | [] => .error .truncated
  | '[' :: rest => readElements fields true start rest
  | '{' :: rest => readMembers fields (rest.length + 1) true start rest
  | other => mismatch other

end ReadAccess.Json
