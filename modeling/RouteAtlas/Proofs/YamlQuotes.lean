/-
Module: RouteAtlas.Proofs.YamlQuotes
Purpose: A text that is written in single or in double quotes is read back, whatever follows.
Main exports: Yaml.IsSingleText, Yaml.readQuoted_single, Yaml.readQuoted_double
-/
import RouteAtlas.Proofs.YamlTokens

namespace RouteAtlas.Yaml

variable {c : Char} {chars rest tail read : List Char} {gap : Gap} {column indent : Nat}
  {style : QuoteStyle}

/-! ## Blanks and line breaks between quotes -/

theorem quotedFrom_space (noLines : gap.isLines = false) :
    quotedFrom style .read read gap column (' ' :: rest) =
      quotedFrom style .read read (.blanks (' ' :: gap.fold)) (column + 1) rest := by
  have noBreak : isBreak ' ' = false := by decide
  have isSpace : isBlank ' ' = true := by decide
  cases gap with
  | none => simp [quotedFrom, Gap.fold, Gap.isLines, noBreak, isSpace]
  | blanks blanks => simp [quotedFrom, Gap.fold, Gap.isLines, noBreak, isSpace]
  | lines first others => cases noLines

/-- The indentation of a further line is passed over. -/
theorem quotedFrom_spaces (inLines : gap.isLines = true) (count : Nat) :
    quotedFrom style .read read gap column (spaces count ++ rest) =
      quotedFrom style .read read gap (column + count) rest := by
  induction count generalizing column with
  | zero => rfl
  | succ count ih =>
      have noBreak : isBreak ' ' = false := by decide
      have isSpace : isBlank ' ' = true := by decide
      have step : quotedFrom style .read read gap column (' ' :: (spaces count ++ rest)) =
          quotedFrom style .read read gap (column + 1) (spaces count ++ rest) := by
        cases gap with
        | none => cases inLines
        | blanks blanks => cases inLines
        | lines first others => simp [quotedFrom, isMarker, noBreak, isSpace]
      rw [spaces, List.replicate_succ, List.cons_append]
      exact step.trans (by rw [ih, Nat.add_right_comm, Nat.add_assoc])

theorem isMarker_break (breaks : isBreak c = true) : isMarker (c :: rest) = false := by
  have noDash := ne_of_isBreak '-' (by decide) breaks
  have noDot := ne_of_isBreak '.' (by decide) breaks
  rw [isMarker.eq_def]
  split
  · next isDash => exact absurd (List.cons.inj isDash).1 noDash
  · next isDot => exact absurd (List.cons.inj isDot).1 noDot
  · rfl

theorem quotedFrom_break (breaks : isBreak c = true) :
    quotedFrom style .read read gap column (c :: rest) =
      quotedFrom style .read read (gap.addBreak c) 0 rest := by
  rw [quotedFrom.eq_def]
  simp [isMarker_break breaks, breaks]

/-! ## Characters between quotes -/

/-- Whether a character stands for itself between quotes. -/
def QuoteStyle.Passes (c : Char) : QuoteStyle → Prop
  | .single => c ≠ '\''
  | .double => c ≠ '"' ∧ c ≠ '\\'

theorem quotedFrom_cons (passes : style.Passes c) (noBreak : isBreak c = false)
    (noBlank : isBlank c = false) (indented : gap.isLines = true → column ≠ 0) :
    quotedFrom style .read read gap column (c :: rest) =
      quotedFrom style .read (c :: (gap.fold ++ read)) .none (column + 1) rest := by
  have noMarker : (gap.isLines && column == 0) = false := by
    cases inLines : gap.isLines with
    | false => rfl
    | true => simpa using indented inLines
  rw [quotedFrom.eq_def]
  cases style with
  | single =>
      have noQuote : c ≠ '\'' := passes
      simp [noMarker, noBreak, noBlank, noQuote]
  | double =>
      have noMark : c ≠ '"' ∧ c ≠ '\\' := passes
      simp [noMarker, noBreak, noBlank, noMark]

theorem quotedFrom_single_quote :
    quotedFrom .single .read read gap column ('\'' :: '\'' :: rest) =
      quotedFrom .single .read ('\'' :: (gap.fold ++ read)) .none (column + 2) rest := by
  have noBreak : isBreak '\'' = false := by decide
  have noBlank : isBlank '\'' = false := by decide
  rw [quotedFrom.eq_def]
  simp [isMarker, noBreak, noBlank]

/-- A single quote closes the text unless another one follows. -/
theorem quotedFrom_single_close (closed : tail.head? ≠ some '\'') :
    quotedFrom .single .read read gap column ('\'' :: tail) =
      .ok (gap.fold ++ read, ⟨tail, column + 1, false⟩) := by
  have noBreak : isBreak '\'' = false := by decide
  have noBlank : isBlank '\'' = false := by decide
  cases tail with
  | nil =>
      rw [quotedFrom.eq_def]
      simp [isMarker, noBreak, noBlank]
  | cons d tail =>
      have noQuote : d ≠ '\'' := by simpa using closed
      rw [quotedFrom.eq_def]
      simp [isMarker, noBreak, noBlank, noQuote]

theorem quotedFrom_double_close :
    quotedFrom .double .read read gap column ('"' :: tail) =
      .ok (gap.fold ++ read, ⟨tail, column + 1, false⟩) := by
  have noBreak : isBreak '"' = false := by decide
  have noBlank : isBlank '"' = false := by decide
  rw [quotedFrom.eq_def]
  simp [isMarker, noBreak, noBlank]

theorem quotedFrom_backslash :
    quotedFrom .double .read read gap column ('\\' :: rest) =
      quotedFrom .double .escape (gap.fold ++ read) .none (column + 1) rest := by
  have noBreak : isBreak '\\' = false := by decide
  have noBlank : isBlank '\\' = false := by decide
  rw [quotedFrom.eq_def]
  simp [isMarker, noBreak, noBlank]

theorem readQuoted_of_quotedFrom {quote : Char} {text : List Char} {after : Cursor}
    (run : quotedFrom style .read [] .none (column + 1) text = .ok (chars.reverse, after))
    (fresh : Bool) :
    readQuoted style ⟨quote :: text, column, fresh⟩ = .ok (String.ofList chars, after) := by
  have opened : (⟨quote :: text, column, fresh⟩ : Cursor).advance false =
      ⟨text, column + 1, false⟩ := rfl
  simp [readQuoted, opened, run, bind, Except.bind, pure, Except.pure]

/-! ## Single quotes -/

/-- A text with every quote written twice. -/
def doubleQuotes (chars : List Char) : List Char :=
  chars.flatMap fun c => if c = '\'' then ['\'', '\''] else [c]

theorem doubleQuotes_cons (c : Char) (chars : List Char) :
    doubleQuotes (c :: chars) =
      (if c = '\'' then ['\'', '\''] else [c]) ++ doubleQuotes chars :=
  rfl

theorem getLast?_doubleQuotes (chars : List Char) :
    (doubleQuotes chars).getLast? = chars.getLast? := by
  induction chars with
  | nil => rfl
  | cons c chars ih =>
      rw [doubleQuotes_cons, List.getLast?_append, ih, List.getLast?_cons]
      split
      · next isQuote =>
          subst isQuote
          cases chars.getLast? <;> rfl
      · cases chars.getLast? <;> rfl

/-- The last line of a text that is not empty gets its indentation even if only the given character
stands on it. -/
theorem indentLines_concat (fresh : Bool) (noBreak : isBreak c = false) (chars : List Char) :
    indentLines indent fresh (chars ++ [c]) =
      indentLines indent fresh chars ++
        (if (chars.getLast?.map isBreak).getD fresh then spaces indent else []) ++ [c] := by
  induction chars generalizing fresh with
  | nil =>
      simp only [List.nil_append, indentLines, noBreak]
      rfl
  | cons d chars ih =>
      have last : (((d :: chars).getLast?).map isBreak).getD fresh =
          (chars.getLast?.map isBreak).getD (isBreak d) := by
        rw [List.getLast?_cons]
        cases chars.getLast? <;> rfl
      rw [List.cons_append, indentLines, indentLines, last]
      cases breaks : isBreak d with
      | true => simp [ih]
      | false => simp [ih]

theorem singleText_eq (column : Nat) (chars : List Char) :
    singleText column chars = '\'' :: indentLines column false (doubleQuotes chars ++ ['\'']) := by
  rw [indentLines_concat false (by decide), getLast?_doubleQuotes]
  rfl

/-- Characters that stand for themselves in single quotes: no line feed, and no space on either
side of a line break. -/
structure IsSingleText (chars : List Char) : Prop where
  printable : needsEscapes chars = false
  noLine : '\n' ∉ chars
  noSpace : hasPair isBreak (· == ' ') chars = false

/-- What is in a gap is not lost if the given characters follow. -/
def Gap.Keeps (chars : List Char) : Gap → Prop
  | .none => True
  | .blanks _ => ∀ c ∈ chars.head?, isBreak c = false
  | .lines first _ => (∃ c, first = some c ∧ c ≠ '\n') ∧ chars.head? ≠ some ' '

theorem Gap.fold_lines {first : Char} (noLine : first ≠ '\n') (others : List Char) :
    (Gap.lines (some first) others).fold = others ++ [first] := by
  rw [Gap.fold.eq_def]
  split <;> simp_all

theorem hasPair_cons {one other : Char → Bool} (none : hasPair one other (c :: rest) = false) :
    (one c = true → ∀ d ∈ rest.head?, other d = false) ∧ hasPair one other rest = false := by
  cases rest with
  | nil => exact ⟨fun _ => nofun, rfl⟩
  | cons d rest =>
      rw [hasPair, Bool.or_eq_false_iff, Bool.and_eq_false_iff] at none
      refine ⟨fun first => ?_, none.2⟩
      rintro _ ⟨⟩
      exact none.1.resolve_left (by simp [first])

theorem Gap.fold_addBreak (breaks : isBreak c = true) (noLine : c ≠ '\n')
    (keeps : gap.Keeps (c :: chars)) : (gap.addBreak c).fold = c :: gap.fold := by
  cases gap with
  | none => exact Gap.fold_lines noLine []
  | blanks blanks => exact absurd breaks (by simp [keeps c rfl])
  | lines first others =>
      obtain ⟨⟨first, rfl, noFeed⟩, _⟩ := keeps
      rw [Gap.addBreak, Gap.fold_lines noFeed, Gap.fold_lines noFeed]
      rfl

theorem Gap.keeps_addBreak (noLine : c ≠ '\n') (noSpace : chars.head? ≠ some ' ')
    (keeps : gap.Keeps (c :: chars)) : (gap.addBreak c).Keeps chars := by
  cases gap with
  | none => exact ⟨⟨c, rfl, noLine⟩, noSpace⟩
  | blanks blanks => exact ⟨⟨c, rfl, noLine⟩, noSpace⟩
  | lines first others => exact ⟨keeps.1, noSpace⟩

theorem Gap.isLines_addBreak : (gap.addBreak c).isLines = true := by
  cases gap <;> rfl

/-- A character is reached behind the indentation of its line. -/
theorem quotedFrom_margin (style : QuoteStyle) (read : List Char) (indented : 0 < indent)
    (gap : Gap) (column : Nat) :
    ∃ reached, (gap.isLines = true → reached ≠ 0) ∧ ∀ rest,
      quotedFrom style .read read gap column
          ((if gap.isLines then spaces indent else []) ++ rest) =
        quotedFrom style .read read gap reached rest := by
  cases inLines : gap.isLines with
  | false => exact ⟨column, nofun, fun _ => rfl⟩
  | true => exact ⟨column + indent, fun _ => by omega, fun _ => quotedFrom_spaces inLines indent⟩

/-- One character of a text is read; what was read before is kept, and so is the character. -/
theorem quotedFrom_single_char (indented : 0 < indent) (printable : isPrintable c = true)
    (noFeed : c ≠ '\n') (noBreakAfter : c = ' ' → ∀ d ∈ chars.head?, isBreak d = false)
    (noSpaceAfter : isBreak c = true → chars.head? ≠ some ' ') (keeps : gap.Keeps (c :: chars))
    (rest tail : List Char) :
    ∃ read' gap' column', Gap.fold gap' ++ read' = c :: (gap.fold ++ read) ∧ gap'.Keeps chars ∧
      quotedFrom .single .read read gap column
          (indentLines indent gap.isLines (doubleQuotes [c] ++ rest) ++ tail) =
        quotedFrom .single .read read' gap' column'
          (indentLines indent gap'.isLines rest ++ tail) := by
  have written (noQuote : c ≠ '\'') : doubleQuotes [c] ++ rest = c :: rest := by
    simp [doubleQuotes, noQuote]
  cases breaks : isBreak c with
  | true =>
      have noQuote : c ≠ '\'' := ne_of_isBreak '\'' (by decide) breaks
      have kept := Gap.keeps_addBreak noFeed (noSpaceAfter breaks) keeps
      refine ⟨read, gap.addBreak c, 0, ?_, kept, ?_⟩
      · rw [Gap.fold_addBreak breaks noFeed keeps, List.cons_append]
      · rw [written noQuote, indentLines_break breaks, Gap.isLines_addBreak, List.cons_append,
          quotedFrom_break breaks]
  | false =>
      by_cases isSpace : c = ' '
      · subst isSpace
        -- Behind a line break a space would be taken for indentation.
        have noLines : gap.isLines = false := by
          cases gap with
          | none => rfl
          | blanks blanks => rfl
          | lines first others => exact absurd rfl keeps.2
        refine ⟨read, .blanks (' ' :: gap.fold), column + 1, rfl, noBreakAfter rfl, ?_⟩
        rw [written (by decide), indentLines_cons breaks, noLines]
        exact quotedFrom_space noLines
      have noBlank : isBlank c = false :=
        Bool.eq_false_iff.mpr fun blank => isSpace (isBlank_of_isPrintable printable blank)
      obtain ⟨reached, inside, passed⟩ := quotedFrom_margin .single read indented gap column
      by_cases isQuote : c = '\''
      · subst isQuote
        refine ⟨'\'' :: (gap.fold ++ read), .none, reached + 2, rfl, trivial, ?_⟩
        have twice : doubleQuotes ['\''] ++ rest = '\'' :: '\'' :: rest := rfl
        rw [twice, indentLines_cons breaks, indentLines_cons breaks, List.append_assoc, passed]
        exact quotedFrom_single_quote
      · have passes : QuoteStyle.single.Passes c := isQuote
        refine ⟨c :: (gap.fold ++ read), .none, reached + 1, rfl, trivial, ?_⟩
        rw [written isQuote, indentLines_cons breaks, List.append_assoc, passed]
        exact quotedFrom_cons passes breaks noBlank inside

theorem quotedFrom_single (indented : 0 < indent) (closed : tail.head? ≠ some '\'')
    (printable : IsPrintable chars) (noLine : '\n' ∉ chars)
    (noSpaceBefore : hasPair (· == ' ') isBreak chars = false)
    (noSpaceAfter : hasPair isBreak (· == ' ') chars = false) (keeps : gap.Keeps chars) :
    ∃ after, quotedFrom .single .read read gap column
        (indentLines indent gap.isLines (doubleQuotes chars ++ ['\'']) ++ tail) =
      .ok (chars.reverse ++ (gap.fold ++ read), ⟨tail, after, false⟩) := by
  induction chars generalizing read gap column with
  | nil =>
      have quoteNoBreak : isBreak '\'' = false := by decide
      obtain ⟨reached, _, passed⟩ := quotedFrom_margin .single read indented gap column
      have written : indentLines indent gap.isLines (doubleQuotes [] ++ ['\'']) ++ tail =
          (if gap.isLines then spaces indent else []) ++ '\'' :: tail := by
        simp [doubleQuotes, indentLines, quoteNoBreak]
      exact ⟨reached + 1, by rw [written, passed, quotedFrom_single_close closed]; rfl⟩
  | cons c chars ih =>
      obtain ⟨printableFirst, printableRest⟩ := isPrintable_cons.mp printable
      obtain ⟨noFeed, noLineRest⟩ := not_or.mp (mt List.mem_cons.mpr noLine)
      obtain ⟨noBreakAfter, noSpaceBeforeRest⟩ := hasPair_cons noSpaceBefore
      obtain ⟨noSpaceNext, noSpaceAfterRest⟩ := hasPair_cons noSpaceAfter
      obtain ⟨read', gap', column', same, keepsRest, step⟩ :=
        @quotedFrom_single_char c chars read gap column indent indented printableFirst
          (Ne.symm noFeed) (fun isSpace => noBreakAfter (by simp [isSpace]))
          (fun breaks space => absurd (noSpaceNext breaks ' ' space) (by decide)) keeps
          (doubleQuotes chars ++ ['\'']) tail
      obtain ⟨after, run⟩ := @ih read' gap' column' printableRest noLineRest noSpaceBeforeRest
        noSpaceAfterRest keepsRest
      have split : doubleQuotes (c :: chars) ++ ['\''] =
          doubleQuotes [c] ++ (doubleQuotes chars ++ ['\'']) := by
        simp [doubleQuotes]
      refine ⟨after, ?_⟩
      rw [split, step, run, same]
      simp

/-- A text in single quotes is read back. -/
theorem readQuoted_single (single : IsSingleText chars) (indented : 0 < indent)
    (closed : tail.head? ≠ some '\'') (column : Nat) (fresh : Bool) :
    ∃ after, readQuoted .single ⟨singleText indent chars ++ tail, column, fresh⟩ =
      .ok (String.ofList chars, ⟨tail, after, false⟩) := by
  have noSpaceBefore : hasPair (· == ' ') isBreak chars = false := by
    have plain := single.printable
    rw [needsEscapes, Bool.or_eq_false_iff] at plain
    exact plain.2
  obtain ⟨after, run⟩ : ∃ after, quotedFrom .single .read [] .none (column + 1)
      (indentLines indent false (doubleQuotes chars ++ ['\'']) ++ tail) =
      .ok (chars.reverse ++ [], ⟨tail, after, false⟩) :=
    quotedFrom_single indented closed (fun _ => isPrintable_of_mem single.printable) single.noLine
      noSpaceBefore single.noSpace trivial
  rw [List.append_nil] at run
  refine ⟨after, ?_⟩
  rw [singleText_eq]
  exact readQuoted_of_quotedFrom run fresh

/-! ## Double quotes -/

/-- What some hexadecimal digits make of a number. -/
def codeValue : Nat → Nat → Nat → Nat
  | 0, start, _ => start
  | count + 1, start, value => 16 * codeValue count start (value / 16) + value % 16

theorem hexValue?_digit (value : Nat) :
    hexValue? (Nat.digitChar (value % 16)).toUpper = some (value % 16) := by
  have all : ∀ digit < 16, hexValue? (Nat.digitChar digit).toUpper = some digit := by decide
  exact all _ (Nat.mod_lt value (by decide))

/-- All but the last hexadecimal digits of a code. -/
theorem quotedFrom_digits (count value start : Nat) {missing : Nat} (more : missing ≠ 0) :
    quotedFrom style (.code (count + missing) start) read .none column
        (hexDigits count value ++ rest) =
      quotedFrom style (.code missing (codeValue count start value)) read .none (column + count)
        rest := by
  induction count generalizing value missing rest with
  | zero => rw [hexDigits, Nat.zero_add]; rfl
  | succ count ih =>
      have regrouped : count + 1 + missing = count + (missing + 1) := by omega
      rw [hexDigits, List.append_assoc, regrouped, ih (value / 16) (Nat.succ_ne_zero missing)]
      simp [quotedFrom, hexValue?_digit, more, codeValue, Nat.add_assoc]

/-- A code of hexadecimal digits. -/
theorem quotedFrom_code (count : Nat) {value : Nat} (fits : codeValue (count + 1) 0 value = value)
    (valid : value.isValidChar) :
    quotedFrom style (.code (count + 1) 0) read .none column (hexDigits (count + 1) value ++ rest) =
      quotedFrom style .read (Char.ofNat value :: read) .none (column + (count + 1)) rest := by
  have last : 16 * codeValue count 0 (value / 16) + value % 16 = value := fits
  rw [hexDigits, List.append_assoc, quotedFrom_digits count _ _ Nat.one_ne_zero]
  simp [quotedFrom, hexValue?_digit, last, valid, Nat.add_assoc]

theorem escapeLetter?_spec {letter : Char} (found : escapeLetter? c = some letter) :
    isBreak letter = false ∧ codeLength? letter = none ∧ escaped? letter = some c := by
  obtain ⟨before, after, split, _⟩ := List.lookup_eq_some_iff.mp found
  have all : ∀ pair ∈ before ++ (c, letter) :: after,
      isBreak pair.2 = false ∧ codeLength? pair.2 = none ∧ escaped? pair.2 = some pair.1 := by
    rw [← split]
    decide
  exact all (c, letter) (by simp)

theorem quotedFrom_letter {letter : Char} (found : escapeLetter? c = some letter) :
    quotedFrom style .escape read .none column (letter :: rest) =
      quotedFrom style .read (c :: read) .none (column + 1) rest := by
  obtain ⟨noBreak, noCode, isEscape⟩ := escapeLetter?_spec found
  simp [quotedFrom, noBreak, noCode, isEscape]

/-- A character that does not stand for itself is read from its escape. -/
theorem quotedFrom_escape (read : List Char) (gap : Gap) (column : Nat) (rest : List Char)
    (noPlain : (isPrintable c && !isBreak c && c != '"' && c != '\\') = false) :
    ∃ after, quotedFrom .double .read read gap column (doubleChar c ++ rest) =
      quotedFrom .double .read (c :: (gap.fold ++ read)) .none after rest := by
  have valid : c.toNat.isValidChar := c.valid
  have code (letter : Char) (count : Nat) (isCode : codeLength? letter = some (count + 1))
      (noBreak : isBreak letter = false) (fits : codeValue (count + 1) 0 c.toNat = c.toNat) :
      quotedFrom .double .read read gap column
          ('\\' :: letter :: hexDigits (count + 1) c.toNat ++ rest) =
        quotedFrom .double .read (c :: (gap.fold ++ read)) .none
          (column + 1 + 1 + (count + 1)) rest := by
    have opened : quotedFrom .double .escape (gap.fold ++ read) .none (column + 1)
        (letter :: (hexDigits (count + 1) c.toNat ++ rest)) =
        quotedFrom .double (.code (count + 1) 0) (gap.fold ++ read) .none (column + 1 + 1)
          (hexDigits (count + 1) c.toNat ++ rest) := by
      simp [quotedFrom, noBreak, isCode]
    rw [List.cons_append, List.cons_append, quotedFrom_backslash, opened,
      quotedFrom_code count fits valid, Char.ofNat_toNat]
  have small : c.toNat < 0x110000 := by
    rcases valid with low | high <;> omega
  rw [doubleChar, noPlain]
  cases found : escapeLetter? c with
  | some letter =>
      refine ⟨column + 1 + 1, ?_⟩
      exact quotedFrom_backslash.trans (quotedFrom_letter found)
  | none =>
      by_cases byte : c.toNat ≤ 0xFF
      · have run := code 'x' 1 rfl (by decide) (by simp [codeValue]; omega)
        exact ⟨_, by simpa [byte] using run⟩
      by_cases short : c.toNat ≤ 0xFFFF
      · have run := code 'u' 3 rfl (by decide) (by simp [codeValue]; omega)
        exact ⟨_, by simpa [byte, short] using run⟩
      · have run := code 'U' 7 rfl (by decide) (by simp [codeValue]; omega)
        exact ⟨_, by simpa [byte, short] using run⟩

theorem quotedFrom_double (noLines : gap.isLines = false) :
    ∃ after, quotedFrom .double .read read gap column
        (chars.flatMap doubleChar ++ '"' :: tail) =
      .ok (chars.reverse ++ (gap.fold ++ read), ⟨tail, after, false⟩) := by
  induction chars generalizing read gap column with
  | nil => exact ⟨column + 1, quotedFrom_double_close⟩
  | cons c chars ih =>
      have reversed : (c :: chars).reverse ++ (gap.fold ++ read) =
          chars.reverse ++ c :: (gap.fold ++ read) := by simp
      rw [List.flatMap_cons, List.append_assoc, reversed]
      cases isPlain : isPrintable c && !isBreak c && c != '"' && c != '\\' with
      | false =>
          obtain ⟨reached, step⟩ := quotedFrom_escape read gap column
            (chars.flatMap doubleChar ++ '"' :: tail) isPlain
          rw [step]
          exact ih rfl
      | true =>
          have written : doubleChar c = [c] := by rw [doubleChar, isPlain]; rfl
          simp only [Bool.and_eq_true, Bool.not_eq_true', bne_iff_ne] at isPlain
          obtain ⟨⟨⟨printable, noBreak⟩, noQuote⟩, noBackslash⟩ := isPlain
          rw [written, List.singleton_append]
          by_cases isSpace : c = ' '
          · subst isSpace
            rw [quotedFrom_space noLines]
            exact ih rfl
          · have noBlank : isBlank c = false :=
              Bool.eq_false_iff.mpr fun blank => isSpace (isBlank_of_isPrintable printable blank)
            have passes : QuoteStyle.double.Passes c := ⟨noQuote, noBackslash⟩
            rw [quotedFrom_cons passes noBreak noBlank (by simp [noLines])]
            exact ih rfl

/-- A text in double quotes is read back. -/
theorem readQuoted_double (chars tail : List Char) (column : Nat) (fresh : Bool) :
    ∃ after, readQuoted .double ⟨doubleText chars ++ tail, column, fresh⟩ =
      .ok (String.ofList chars, ⟨tail, after, false⟩) := by
  obtain ⟨after, run⟩ := @quotedFrom_double chars tail [] .none (column + 1) rfl
  refine ⟨after, ?_⟩
  have written : doubleText chars ++ tail = '"' :: (chars.flatMap doubleChar ++ '"' :: tail) := by
    simp [doubleText]
  rw [written]
  exact readQuoted_of_quotedFrom (by simpa [Gap.fold] using run) fresh

end RouteAtlas.Yaml
