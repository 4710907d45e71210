/-
Module: RouteAtlas.Proofs.YamlStyles
Purpose: The style in which a scalar is written suits its text.
Main exports: Yaml.isLine_of_isMistakable, Yaml.Scalar.IsWritable, Yaml.Scalar.style_suits,
  Yaml.Scalar.isWritable_ofText
-/
import RouteAtlas.Proofs.YamlBlocks
import RouteAtlas.Proofs.YamlPlain
import RouteAtlas.Proofs.YamlQuotes

namespace RouteAtlas.Yaml

variable {c : Char} {chars : List Char} {text : String}

/-!
## Texts that could be taken for something else

All of them are on one line, since no line break is a digit or a mark of a number.
-/

theorem isLine_of_mem {names : List String} (lines : ∀ name ∈ names, IsLine name.toList)
    (isName : names.contains text = true) : IsLine text.toList :=
  lines text (by simpa using isName)

/-- No line break is among the characters of numbers. -/
theorem noBreak_of_between (above : 0x0A < c.toNat) (below : c.toNat < 0x2028) :
    isBreak c = false := by
  refine Bool.eq_false_iff.mpr fun breaks => ?_
  simp only [isBreak, isSeparator, Bool.or_eq_true, beq_iff_eq] at breaks
  rcases breaks with rfl | separator
  · exact absurd above (by decide)
  · omega

theorem noBreak_of_range {low high : Char} (within : low ≤ c ∧ c ≤ high)
    (above : 0x0A < low.toNat) (below : high.toNat < 0x2028) : isBreak c = false :=
  noBreak_of_between (Nat.lt_of_lt_of_le above within.1) (Nat.lt_of_le_of_lt within.2 below)

theorem noBreak_of_isDigit (digit : c.isDigit = true) : isBreak c = false := by
  simp only [Char.isDigit, Bool.and_eq_true, decide_eq_true_eq] at digit
  exact noBreak_of_range (show '0' ≤ c ∧ c ≤ '9' from digit) (by decide) (by decide)

theorem noBreak_of_digit? {base value : Nat} (found : digit? base c = some value) :
    isBreak c = false := by
  simp only [digit?] at found
  split at found
  · next digit => exact noBreak_of_range digit (by decide) (by decide)
  · split at found
    · next letter => exact noBreak_of_range letter (by decide) (by decide)
    · split at found
      · next letter => exact noBreak_of_range letter (by decide) (by decide)
      · simp at found

theorem isLine_of_foldlM {base : Nat} (start value : Nat)
    (found : chars.foldlM (fun n c => (digit? base c).map (base * n + ·)) start = some value) :
    IsLine chars := by
  induction chars generalizing start with
  | nil => exact isLine_nil
  | cons c chars ih =>
      rw [List.foldlM_cons, Option.bind_eq_bind, Option.bind_eq_some_iff] at found
      obtain ⟨between, step, others⟩ := found
      rw [Option.map_eq_some_iff] at step
      obtain ⟨digit, isDigit, _⟩ := step
      exact isLine_cons.mpr ⟨noBreak_of_digit? isDigit, ih between others⟩

theorem isLine_of_digits? {base value : Nat} (found : digits? base chars = some value) :
    IsLine chars := by
  rw [digits?.eq_def] at found
  split at found
  · cases found
  · exact isLine_of_foldlM 0 value found

theorem isLine_of_isPadded (padded : isPadded chars = true) : IsLine chars := by
  rw [isPadded.eq_def] at padded
  split at padded
  · next c rest =>
      have digits : ∀ d ∈ c :: rest, d.isDigit = true := by simpa using padded
      exact isLine_cons.mpr ⟨by decide, fun d inside => noBreak_of_isDigit (digits d inside)⟩
  · cases padded

theorem isLine_of_magnitude? {value : Nat} (found : magnitude? chars = some value) :
    IsLine chars := by
  rw [magnitude?.eq_def] at found
  split at found
  · exact isLine_cons.mpr ⟨by decide, isLine_cons.mpr ⟨by decide, isLine_of_digits? found⟩⟩
  · exact isLine_cons.mpr ⟨by decide, isLine_cons.mpr ⟨by decide, isLine_of_digits? found⟩⟩
  · exact isLine_cons.mpr ⟨by decide, isLine_cons.mpr ⟨by decide, isLine_of_digits? found⟩⟩
  · split at found
    · cases found
    · exact isLine_of_digits? found

theorem isLine_of_natural? {bound value : Nat} (found : natural? bound text = some value) :
    IsLine text.toList := by
  simp only [natural?, Option.filter_eq_some_iff] at found
  split at found
  · next rest written =>
      rw [written]
      exact isLine_cons.mpr ⟨by decide, isLine_of_magnitude? found.1⟩
  · exact isLine_of_magnitude? found.1

theorem isLine_of_isNegative (negative : isNegative text = true) : IsLine text.toList := by
  rw [isNegative] at negative
  split at negative
  · next rest written =>
      obtain ⟨value, found⟩ := Option.isSome_iff_exists.mp negative
      rw [Option.filter_eq_some_iff] at found
      rw [written]
      exact isLine_cons.mpr ⟨by decide, isLine_of_magnitude? found.1⟩
  · cases negative

theorem isLine_takeWhile (chars : List Char) : IsLine (chars.takeWhile Char.isDigit) :=
  fun _ inside => noBreak_of_isDigit (List.all_eq_true.mp List.all_takeWhile _ inside)

/-- A text is on one line if its digits are followed by such a text. -/
theorem isLine_of_dropWhile (others : IsLine (chars.dropWhile Char.isDigit)) : IsLine chars := by
  have whole := isLine_append.mpr ⟨isLine_takeWhile chars, others⟩
  rwa [List.takeWhile_append_dropWhile] at whole

theorem isLine_of_fraction? {whole after rest : List Char}
    (found : fraction? chars = some (whole, after, rest)) (others : IsLine rest) :
    IsLine chars := by
  refine isLine_of_dropWhile ?_
  simp only [fraction?] at found
  split at found
  · next fraction written =>
      rw [written]
      split at found
      · cases found
      · cases found
        exact isLine_cons.mpr ⟨by decide, isLine_of_dropWhile others⟩
  · split at found
    · cases found
    · cases found
      exact others

theorem isLine_of_power? {power : Int} (found : power? chars = some power) : IsLine chars := by
  rw [power?.eq_def] at found
  split at found
  · exact isLine_nil
  · next e rest =>
      split at found
      · next isMark =>
          have noBreak : isBreak e = false := by rcases isMark with rfl | rfl <;> decide
          refine isLine_cons.mpr ⟨noBreak, ?_⟩
          split at found
          all_goals
            rw [Option.map_eq_some_iff] at found
            obtain ⟨value, cast, _⟩ := found
            obtain ⟨_, digits, _⟩ := Option.bind_eq_some_iff.mp cast
          · exact isLine_cons.mpr ⟨by decide, isLine_of_digits? digits⟩
          · exact isLine_cons.mpr ⟨by decide, isLine_of_digits? digits⟩
          · exact isLine_of_digits? digits
      · cases found

theorem isLine_of_unsigned {unsigned : List Char}
    (decimal : (match fraction? unsigned with
      | none => false
      | some (whole, after, rest) =>
          match power? rest with
          | none => false
          | some power => isFinite (whole ++ after) (power - after.length)) = true) :
    IsLine unsigned := by
  split at decimal
  · cases decimal
  · next whole after rest found =>
      split at decimal
      · cases decimal
      · next power isPower => exact isLine_of_fraction? found (isLine_of_power? isPower)

theorem isLine_of_isDecimal (decimal : isDecimal chars = true) : IsLine chars := by
  rw [isDecimal.eq_def] at decimal
  split at decimal
  · exact isLine_cons.mpr ⟨by decide, isLine_of_unsigned decimal⟩
  · exact isLine_of_unsigned decimal

theorem isLine_of_isReal (real : isReal text = true) : IsLine text.toList := by
  simp only [isReal, Bool.and_eq_true, Bool.or_eq_true] at real
  rcases real.2 with special | decimal
  · exact isLine_of_mem (by decide) special
  · split at decimal
    · cases decimal
    · next rest _ written =>
        rw [written]
        exact isLine_cons.mpr ⟨by decide, isLine_of_isDecimal decimal⟩
    · exact isLine_of_isDecimal decimal

theorem isLine_of_kindOf (mistakable : kindOf text ≠ .text) : IsLine text.toList := by
  rw [kindOf] at mistakable
  split at mistakable
  · next isNull => exact isLine_of_mem (by decide) isNull
  · split at mistakable
    · next value isBool =>
        obtain ⟨before, after, split, _⟩ := List.lookup_eq_some_iff.mp isBool
        have all : ∀ pair ∈ before ++ (text, value) :: after, IsLine pair.1.toList := by
          rw [← split]
          decide
        exact all (text, value) (by simp)
    · split at mistakable
      · next value found => exact isLine_of_natural? found
      · split at mistakable
        · next number =>
            rw [Bool.or_eq_true] at number
            exact number.elim isLine_of_isNegative isLine_of_isReal
        · exact absurd rfl mistakable

/-- A text that could be taken for something else is on one line. -/
theorem isLine_of_isMistakable (mistakable : isMistakable text = true) : IsLine text.toList := by
  simp only [isMistakable, Bool.or_eq_true, bne_iff_ne] at mistakable
  rcases mistakable with other | padded
  · exact isLine_of_kindOf other
  · split at padded
    · next rest written =>
        rw [written]
        exact isLine_cons.mpr ⟨by decide, isLine_of_isPadded padded⟩
    · next rest written =>
        rw [written]
        exact isLine_cons.mpr ⟨by decide, isLine_of_isPadded padded⟩
    · exact isLine_of_isPadded padded

/-! ## Styles -/

theorem IsLine.hasPair_eq_false (line : IsLine chars) (other : Char → Bool) :
    hasPair isBreak other chars = false := by
  induction chars with
  | nil => rfl
  | cons c chars ih =>
      obtain ⟨first, others⟩ := isLine_cons.mp line
      cases chars with
      | nil => rfl
      | cons d chars => rw [hasPair, first, ih others]; rfl

theorem IsLine.isSingleText (line : IsLine chars) (printable : needsEscapes chars = false) :
    IsSingleText chars where
  printable := printable
  noLine := fun inside => absurd (line '\n' inside) (by decide)
  noSpace := line.hasPair_eq_false _

/-- What a text must be like to be read back if it is written in a style. -/
def Style.Suits (chars : List Char) : Style → Prop
  | .plain => IsPlainText chars
  | .single => IsSingleText chars
  | .double => True
  | .literal => IsLiteralText chars

/-- The style that is chosen for a text suits it. -/
theorem Style.ofText_suits (text : String) : (Style.ofText text).Suits text.toList := by
  rw [Style.ofText]
  split
  · trivial
  · next printable =>
      rw [Bool.not_eq_true] at printable
      split
      · next hasLine =>
          split
          · trivial
          · exact ⟨fun isNil => by simp [isNil] at hasLine, printable⟩
      · next noLine =>
          split
          · next mistakable => exact (isLine_of_isMistakable mistakable).isSingleText printable
          · next clear =>
              split
              · next bare =>
                  refine ⟨fun isNil => clear ?_, printable, bare⟩
                  rw [String.toList_eq_nil_iff.mp isNil]
                  decide
              · split
                · trivial
                · next noSpace =>
                    exact ⟨printable, by simpa using noLine, by simpa using noSpace⟩

namespace Scalar

/-- Whether a scalar can be written: without quotes only if its text stands for itself so. -/
def IsWritable (scalar : Scalar) : Prop :=
  scalar.plain = true → IsPlainText scalar.text.toList

theorem isWritable_ofText (text : String) : (Scalar.ofText text).IsWritable := by
  intro isPlain
  have suits := Style.ofText_suits text
  rw [beq_iff_eq.mp isPlain] at suits
  exact suits

variable {scalar : Scalar}

/-- The style in which a scalar is written suits its text. -/
theorem style_suits (writable : scalar.IsWritable) : scalar.style.Suits scalar.text.toList := by
  rw [style]
  split
  · next isPlain => exact writable isPlain
  · have suits := Style.ofText_suits scalar.text
    -- A text that was in quotes gets single ones where it could stand without.
    split
    · next isPlain =>
        rw [isPlain] at suits
        exact IsLine.isSingleText suits.bare_parts.2.1 suits.printable
    · exact suits

/-- Only a scalar without quotes is written without them. -/
theorem plain_eq (scalar : Scalar) : scalar.plain = (scalar.style == .plain) := by
  rw [style]
  cases scalar.plain with
  | true => rfl
  | false =>
      cases style : Style.ofText scalar.text <;> rfl

end Scalar

end RouteAtlas.Yaml
