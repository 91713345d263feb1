/-
  Numbers written as digits, and decimal numerals read back under a limit.
-/
set_option autoImplicit false

namespace ReadAccess.Text

/-! ## Writing -/

def decimal (n : Nat) : String := String.ofList (Nat.toDigits 10 n)

def octal (n : Nat) : String := String.ofList (Nat.toDigits 8 n)

/-- A number in base sixteen, in small letters. -/
def hexadecimal (n : Nat) : String := String.ofList (Nat.toDigits 16 n)

/-- An integer in base ten, with a sign if it is negative. -/
def signedDecimal : Int → String
  | .ofNat n => decimal n
  | .negSucc n => "-" ++ decimal (n + 1)

/-! ## Reading -/

/-- Why a text is no numeral. -/
inductive NumeralFault where
  | empty
  | notADigit
  | tooLarge
  deriving DecidableEq, Repr

def NumeralFault.message : NumeralFault → String
  | .empty => "cannot parse integer from empty string"
  | .notADigit => "invalid digit found in string"
  | .tooLarge => "number too large to fit in target type"

/-- Digits read from left to right onto `acc`.  The first character that is no
digit, or that takes the value past the limit, ends the reading. -/
def readDigits (limit : Nat) : Nat → List Char → Except NumeralFault Nat
  | acc, [] => .ok acc
  | acc, c :: rest =>
      if c.isDigit then
        if 10 * acc + (c.toNat - '0'.toNat) ≤ limit then
          readDigits limit (10 * acc + (c.toNat - '0'.toNat)) rest
        else .error .tooLarge
      else .error .notADigit

/-- A decimal numeral no greater than `limit`.  One plus sign may stand in
front of the digits. -/
def readNumeral (limit : Nat) (cs : List Char) : Except NumeralFault Nat :=
  match cs with
  | [] => .error .empty
  | c :: rest =>
      if c = '+' then
        if rest.isEmpty then .error .notADigit else readDigits limit 0 rest
      else readDigits limit 0 (c :: rest)

def hexValue? (c : Char) : Option Nat :=
  if c.isDigit then some (c.toNat - '0'.toNat)
  else if 'a' ≤ c ∧ c ≤ 'f' then some (c.toNat - 'a'.toNat + 10)
  else if 'A' ≤ c ∧ c ≤ 'F' then some (c.toNat - 'A'.toNat + 10)
  else none

theorem le_ofDigitChars (acc : Nat) (cs : List Char) : acc ≤ Nat.ofDigitChars 10 cs acc := by
  induction cs generalizing acc with
  | nil => simp
  | cons c rest ih =>
      rw [Nat.ofDigitChars_cons]
      exact Nat.le_trans (by omega) (ih _)

/-- Digits read as `n` exactly if all are digits and `n` is their value, within
the limit. -/
theorem readDigits_eq_ok_iff {limit acc n : Nat} {cs : List Char} (hacc : acc ≤ limit) :
    readDigits limit acc cs = .ok n ↔
      (∀ c ∈ cs, c.isDigit = true) ∧ n = Nat.ofDigitChars 10 cs acc ∧ n ≤ limit := by
  induction cs generalizing acc with
  | nil =>
      simp only [readDigits, Except.ok.injEq, List.not_mem_nil, false_implies, implies_true,
        Nat.ofDigitChars_nil, true_and]
      constructor
      · rintro rfl; exact ⟨rfl, hacc⟩
      · exact fun h => h.1.symm
  | cons c rest ih =>
      simp only [readDigits, List.mem_cons, forall_eq_or_imp, Nat.ofDigitChars_cons]
      by_cases hd : c.isDigit = true
      · simp only [hd, if_true, true_and]
        by_cases hl : 10 * acc + (c.toNat - '0'.toNat) ≤ limit
        · rw [if_pos hl, ih hl]
        · rw [if_neg hl]
          constructor
          · intro h; cases h
          · rintro ⟨_, hn, hle⟩
            have := le_ofDigitChars (10 * acc + (c.toNat - '0'.toNat)) rest
            omega
      · simp [hd]

/-- A number within the limit reads back from its decimal text. -/
theorem readNumeral_decimal {limit n : Nat} (h : n ≤ limit) :
    readNumeral limit (decimal n).toList = .ok n := by
  have hdig : ∀ c ∈ Nat.toDigits 10 n, c.isDigit = true := fun c hc =>
    Nat.isDigit_of_mem_toDigits (by decide) (by decide) hc
  have hread : readDigits limit 0 (Nat.toDigits 10 n) = .ok n :=
    (readDigits_eq_ok_iff (Nat.zero_le _)).mpr ⟨hdig, Nat.ofDigitChars_ten_toDigits.symm, h⟩
  rw [decimal, String.toList_ofList]
  cases hcs : Nat.toDigits 10 n with
  | nil => exact absurd hcs Nat.toDigits_ne_nil
  | cons c rest =>
      have hc : c ≠ '+' := by
        rintro rfl
        exact absurd (hdig '+' (hcs ▸ List.mem_cons_self ..)) (by decide)
      rw [readNumeral]
      simp only [hc, if_false]
      rw [← hcs, hread]

end ReadAccess.Text
