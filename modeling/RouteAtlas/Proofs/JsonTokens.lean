/-
Module: RouteAtlas.Proofs.JsonTokens
Purpose: A written string, literal or integer is read back as what it was
  written for, whatever follows it.
Main exports: Json.readKey_literal, Json.readLiteral_self,
  Json.readNumber_digits
-/
import RouteAtlas.Proofs.JsonSpelling

namespace RouteAtlas.Json

/-! ## Strings -/

/-- A literal after its opening quote is scanned as its text. -/
theorem scanString_literal (text : String) (rest : List Char) :
    scanString .plain true [] (text.toList.flatMap escapeChar ++ '"' :: rest) =
      .text text.toList rest :=
  (spells_escaped text.toList).scan [] rest

/-- A literal after its opening quote is read as the name it was written
for. -/
theorem readKey_literal (text : String) (rest : List Char) :
    readKey (text.toList.flatMap escapeChar ++ '"' :: rest) = (.name text, rest) :=
  (spells_escaped text.toList).readKey_eq rest

/-! ## Literals and integers -/

/-- The letters of a literal are read as its value. -/
theorem readLiteral_self (value : Reading) (letters rest : List Char) :
    readLiteral value letters (letters ++ rest) = (value, rest) := by
  induction letters with
  | nil => rfl
  | cons c letters ih => simpa [readLiteral] using ih

/-- What may follow a complete token: nothing, a blank, or punctuation.  A
numeral ends there, since none of these goes on with it. -/
def IsDelimited : List Char → Prop
  | [] => True
  | c :: _ => c ∈ [' ', '\n', '\t', '\r', ',', ':', ']', '\x7d']

theorem isDelimited_append {one : List Char} (delimited : IsDelimited one)
    (nonempty : one ≠ []) (rest : List Char) : IsDelimited (one ++ rest) := by
  cases one with
  | nil => exact absurd rfl nonempty
  | cons c one => exact delimited

/-- No delimiter goes on with a numeral. -/
theorem IsDelimited.head {c : Char} {rest : List Char}
    (delimited : IsDelimited (c :: rest)) :
    isDigit c = false ∧ c ≠ '.' ∧ c ≠ 'e' ∧ c ≠ 'E' := by
  have inside : c ∈ [' ', '\n', '\t', '\r', ',', ':', ']', '\x7d'] := delimited
  simp only [List.mem_cons, List.not_mem_nil, or_false] at inside
  rcases inside with rfl | rfl | rfl | rfl | rfl | rfl | rfl | rfl <;> decide

theorem isDigit_toDigits (n : Nat) : ∀ c ∈ Nat.toDigits 10 n, isDigit c = true := by
  intro c inside
  have digit : c.isDigit = true :=
    Nat.isDigit_of_mem_toDigits (by decide) (by decide) inside
  simpa [Char.isDigit, isDigit, Char.le_def] using digit

/-- What may follow all the digits of a number. -/
def EndsDigits : List Char → Prop
  | [] => True
  | c :: _ => isDigit c = false

theorem IsDelimited.endsDigits {rest : List Char} (delimited : IsDelimited rest) :
    EndsDigits rest := by
  cases rest with
  | nil => trivial
  | cons c rest => exact delimited.head.1

/-- Digits are taken up to what follows them. -/
theorem takeWhile_digits {digits rest : List Char}
    (all : ∀ c ∈ digits, isDigit c = true) (ends : EndsDigits rest) :
    (digits ++ rest).takeWhile isDigit = digits ∧
      (digits ++ rest).dropWhile isDigit = rest := by
  induction digits with
  | nil =>
      cases rest with
      | nil => exact ⟨rfl, rfl⟩
      | cons c rest =>
          have stop : isDigit c = false := ends
          simp [stop]
  | cons c digits ih =>
      have first : isDigit c = true := all c (by simp)
      have others := ih fun d inside => all d (by simp [inside])
      simp [first, others.1, others.2]

/-- The decimal digits of a positive number do not start with a zero. -/
theorem toDigits_head_ne_zero {n : Nat} (positive : 0 < n) (more : List Char) :
    Nat.toDigits 10 n ≠ '0' :: more := by
  induction n using Nat.strongRecOn generalizing more with
  | ind n ih =>
      by_cases small : n < 10
      · have digits : ∀ d < 10, 0 < d → Nat.digitChar d ≠ '0' := by decide
        rw [Nat.toDigits_of_lt_base small]
        intro same
        exact digits n small positive (List.cons.inj same).1
      · rw [Nat.toDigits_of_base_le (by decide) (by omega)]
        intro same
        cases front : Nat.toDigits 10 (n / 10) with
        | nil => exact absurd front Nat.toDigits_ne_nil
        | cons c digits =>
            rw [front, List.cons_append] at same
            rw [(List.cons.inj same).1] at front
            exact ih (n / 10) (by omega) (by omega) digits front

/-- A numeral without a point and a power ends at a delimiter. -/
theorem readFraction_delimited (negative : Bool) (whole : List Char)
    {rest : List Char} (delimited : IsDelimited rest) :
    readFraction negative whole rest =
      readNumeral ⟨negative, whole, none, none⟩ rest := by
  cases rest with
  | nil => rfl
  | cons c rest =>
      obtain ⟨_, notPoint, notSmall, notLarge⟩ := delimited.head
      simp [readFraction, readPower, notPoint, notSmall, notLarge]

/-- The decimal digits of a number are read as a numeral of these digits. -/
theorem readNumber_digits (negative : Bool) (n : Nat) {rest : List Char}
    (delimited : IsDelimited rest) :
    readNumber negative (Nat.toDigits 10 n ++ rest) =
      readNumeral ⟨negative, Nat.toDigits 10 n, none, none⟩ rest := by
  obtain ⟨whole, after⟩ := takeWhile_digits (isDigit_toDigits n) delimited.endsDigits
  rw [readNumber, whole, after]
  split
  · next empty => exact absurd empty Nat.toDigits_ne_nil
  · next c more padded =>
    rcases Nat.eq_zero_or_pos n with zero | positive
    · subst zero
      simp at padded
    · exact absurd padded (toDigits_head_ne_zero positive _)
  · exact readFraction_delimited negative _ delimited

/-- The digits of a number denote it. -/
theorem digitsValue_toDigits (n : Nat) :
    Numeral.digitsValue (Nat.toDigits 10 n) = n :=
  Nat.ofDigitChars_ten_toDigits

/-- The digits of a number that 64 bits hold denote an integer. -/
theorem Numeral.value_natural {n : Nat} (fits : n < Nat.pow 2 64) :
    Numeral.value ⟨false, Nat.toDigits 10 n, none, none⟩ = some (.integer n) := by
  have holds : decide (n < Nat.pow 2 64) = true := decide_eq_true fits
  unfold value
  simp only [digitsValue_toDigits]
  exact if_pos holds

/-- So do the digits of a negative number, except those of a negative zero. -/
theorem Numeral.value_negative {n : Nat} (positive : 0 < n) (fits : n ≤ Nat.pow 2 63) :
    Numeral.value ⟨true, Nat.toDigits 10 n, none, none⟩ = some (.integer (-n)) := by
  have holds : decide (n ≤ Nat.pow 2 63) = true := decide_eq_true fits
  unfold value
  simp only [digitsValue_toDigits]
  refine (if_neg Bool.false_ne_true).trans (if_pos ?_)
  rw [decide_eq_true positive, holds]
  rfl

end RouteAtlas.Json
