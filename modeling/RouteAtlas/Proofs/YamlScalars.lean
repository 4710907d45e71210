/-
Module: RouteAtlas.Proofs.YamlScalars
Purpose: A scalar is read back, in whatever style it is written, as a key and at the end of a line.
Main exports: Yaml.Scalar.IsKey, Yaml.Scalar.IsKey.readScalar_eq,
  Yaml.Scalar.IsWritable.blockNode_eq
-/
import RouteAtlas.Proofs.YamlStyles

namespace RouteAtlas.Yaml

variable {c : Char} {chars text rest : List Char} {column floor indent fuel : Nat} {fresh : Bool}
  {next : Cursor} {key scalar : Scalar}

/-! ## Characters of quoted texts -/

/-- A text of printable characters on one line. -/
structure IsInline (text : List Char) : Prop where
  printable : IsPrintable text
  line : IsLine text

@[simp]
theorem isInline_nil : IsInline [] :=
  ⟨isPrintable_nil, isLine_nil⟩

@[simp]
theorem isInline_cons :
    IsInline (c :: text) ↔ (isPrintable c = true ∧ isBreak c = false) ∧ IsInline text := by
  constructor
  · rintro ⟨printable, line⟩
    obtain ⟨first, others⟩ := isPrintable_cons.mp printable
    obtain ⟨noBreak, otherNoBreaks⟩ := isLine_cons.mp line
    exact ⟨⟨first, noBreak⟩, others, otherNoBreaks⟩
  · rintro ⟨⟨first, noBreak⟩, others⟩
    exact ⟨isPrintable_cons.mpr ⟨first, others.printable⟩, isLine_cons.mpr ⟨noBreak, others.line⟩⟩

@[simp]
theorem isInline_append {one other : List Char} :
    IsInline (one ++ other) ↔ IsInline one ∧ IsInline other := by
  constructor
  · rintro ⟨printable, line⟩
    obtain ⟨first, second⟩ := isPrintable_append.mp printable
    obtain ⟨firstLine, secondLine⟩ := isLine_append.mp line
    exact ⟨⟨first, firstLine⟩, second, secondLine⟩
  · rintro ⟨first, second⟩
    exact ⟨isPrintable_append.mpr ⟨first.printable, second.printable⟩,
      isLine_append.mpr ⟨first.line, second.line⟩⟩

@[simp]
theorem isInline_hexDigits (count value : Nat) : IsInline (hexDigits count value) := by
  induction count generalizing value with
  | zero => exact isInline_nil
  | succ count ih =>
      have all : ∀ digit < 16, isPrintable (Nat.digitChar digit).toUpper = true ∧
          isBreak (Nat.digitChar digit).toUpper = false := by decide
      have last := all _ (Nat.mod_lt value (by decide))
      simp [hexDigits, ih, last]

theorem isInline_escape {letter : Char} (found : escapeLetter? c = some letter) :
    isPrintable letter = true ∧ isBreak letter = false := by
  obtain ⟨before, after, split, _⟩ := List.lookup_eq_some_iff.mp found
  have all : ∀ pair ∈ before ++ (c, letter) :: after,
      isPrintable pair.2 = true ∧ isBreak pair.2 = false := by
    rw [← split]
    decide
  exact all (c, letter) (by simp)

theorem isInline_doubleChar (c : Char) : IsInline (doubleChar c) := by
  have backslash : isPrintable '\\' = true ∧ isBreak '\\' = false := by decide
  have letters : IsInline ['x', 'u', 'U'] := ⟨by decide, by decide⟩
  simp only [isInline_cons] at letters
  rw [doubleChar]
  split
  · next isPlain =>
      simp only [Bool.and_eq_true, Bool.not_eq_true'] at isPlain
      simp [isPlain.1.1]
  · split
    · next letter found => simp [backslash, isInline_escape found]
    · split
      · simp [backslash, letters]
      · split <;> simp [backslash, letters]

theorem isInline_doubleText (chars : List Char) : IsInline (doubleText chars) := by
  have quote : isPrintable '"' = true ∧ isBreak '"' = false := by decide
  have body : IsInline (chars.flatMap doubleChar) := by
    induction chars with
    | nil => exact isInline_nil
    | cons c chars ih => exact isInline_append.mpr ⟨isInline_doubleChar c, ih⟩
  simp [doubleText, quote, body]

theorem mem_doubleQuotes (inside : c ∈ doubleQuotes chars) : c = '\'' ∨ c ∈ chars := by
  obtain ⟨d, member, isPart⟩ := List.mem_flatMap.mp inside
  split at isPart
  · exact .inl (by simpa using isPart)
  · have same : c = d := by simpa using isPart
    exact .inr (same ▸ member)

theorem isPrintable_singleText (column : Nat) (printable : IsPrintable chars) :
    IsPrintable (singleText column chars) := by
  have quote : isPrintable '\'' = true := by decide
  have body : IsPrintable (doubleQuotes chars) :=
    fun c inside => (mem_doubleQuotes inside).elim (· ▸ quote) (printable c)
  rw [singleText_eq]
  exact isPrintable_cons.mpr
    ⟨quote, isPrintable_indentLines column false (by simp [quote, body])⟩

/-- On one line the indentation of further lines does not matter. -/
theorem singleText_of_isLine (line : IsLine chars) (column : Nat) :
    singleText column chars = '\'' :: (doubleQuotes chars ++ ['\'']) ∧
      IsLine (singleText column chars) := by
  have quote : isBreak '\'' = false := by decide
  have whole : IsLine (doubleQuotes chars ++ ['\'']) := by
    have body : IsLine (doubleQuotes chars) :=
      fun c inside => (mem_doubleQuotes inside).elim (· ▸ quote) (line c)
    simp [body, quote]
  rw [singleText_eq, indentLines_of_isLine whole]
  exact ⟨rfl, isLine_cons.mpr ⟨quote, whole⟩⟩

/-! ## Reading a scalar -/

theorem IsToken.of_mark {mark : Char} (isMark : mark ∈ ['\'', '"', '|', '[', '\x7b'])
    (rest : List Char) : IsToken (mark :: rest) := by
  obtain ⟨noBlank, noBreak, noComment, noDash, noDot, noColon⟩ : isBlank mark = false ∧
      isBreak mark = false ∧ mark ≠ '#' ∧ mark ≠ '-' ∧ mark ≠ '.' ∧ mark ≠ ':' := by
    simp only [List.mem_cons, List.not_mem_nil, or_false] at isMark
    rcases isMark with rfl | rfl | rfl | rfl | rfl <;> decide
  refine ⟨⟨mark, rest, rfl, noBlank, noBreak, noComment⟩, ?_, ?_⟩
  · refine isMarker_eq_false fun sign isSign others marked => ?_
    obtain ⟨rfl, _⟩ := List.cons.inj marked
    simp only [List.mem_cons, List.not_mem_nil, or_false] at isSign
    exact isSign.elim noDash noDot
  · intro after isColon
    exact absurd (List.cons.inj isColon).1 noColon

/-- A text that is read as a scalar: it starts with no mark of anything else. -/
structure OpensScalar (text : List Char) : Prop where
  token : IsToken text
  noMark : ∀ mark ∈ ['[', '\x7b', '|', '>'], text.head? ≠ some mark
  noEntry : ∀ rest, text = '-' :: rest → endsWord rest = false

theorem OpensScalar.of_quote {quote : Char} (isQuote : quote = '\'' ∨ quote = '"')
    (rest : List Char) : OpensScalar (quote :: rest) := by
  rcases isQuote with rfl | rfl
  · exact ⟨.of_mark (by decide) rest, by simp, nofun⟩
  · exact ⟨.of_mark (by decide) rest, by simp, nofun⟩

theorem IsPlainText.opensScalar (plain : IsPlainText chars) {mark : Char} (rest : List Char)
    (isEnd : mark = '\n' ∨ mark = ':') : OpensScalar (chars ++ mark :: rest) := by
  refine ⟨plain.isToken isEnd, ?_, ?_⟩
  · obtain ⟨c, others, rfl, _, unreserved, _⟩ := plain.head
    intro sign isSign same
    obtain rfl : c = sign := by simpa using same
    simp only [List.mem_cons, List.not_mem_nil, or_false] at isSign
    rcases isSign with rfl | rfl | rfl | rfl <;> cases unreserved
  · obtain ⟨c, others, rfl, _, _, stays, _⟩ := plain.head
    intro after isDash
    obtain ⟨rfl, rfl⟩ := List.cons.inj isDash
    exact endsWord_append (stays (.inr (.inr rfl)))

theorem readScalar_single {after : Cursor} {result : String}
    (read : readQuoted .single ⟨'\'' :: text, column, fresh⟩ = .ok (result, after)) :
    readScalar false floor ⟨'\'' :: text, column, fresh⟩ = .ok (⟨false, result⟩, after) := by
  simp [readScalar, read, bind, Except.bind, pure, Except.pure]

theorem readScalar_double {after : Cursor} {result : String}
    (read : readQuoted .double ⟨'"' :: text, column, fresh⟩ = .ok (result, after)) :
    readScalar false floor ⟨'"' :: text, column, fresh⟩ = .ok (⟨false, result⟩, after) := by
  simp [readScalar, read, bind, Except.bind, pure, Except.pure]

theorem Scalar.eq_of_plain {plain : Bool} (isPlain : scalar.plain = plain) :
    (⟨plain, String.ofList scalar.text.toList⟩ : Scalar) = scalar := by
  rw [← isPlain, String.ofList_toList]

/-- A text in double quotes is read as a scalar. -/
theorem readScalar_doubleText (notPlain : scalar.plain = false) (rest : List Char)
    (floor column : Nat) (fresh : Bool) :
    ∃ after, readScalar false floor ⟨doubleText scalar.text.toList ++ rest, column, fresh⟩ =
      .ok (scalar, ⟨rest, after, false⟩) := by
  obtain ⟨after, read⟩ := readQuoted_double scalar.text.toList rest column fresh
  exact ⟨after, (readScalar_double read).trans (by rw [Scalar.eq_of_plain notPlain])⟩

/-- So is one in single quotes. -/
theorem readScalar_singleText (notPlain : scalar.plain = false)
    (single : IsSingleText scalar.text.toList) (indented : 0 < indent)
    (closed : rest.head? ≠ some '\'') (floor column : Nat) (fresh : Bool) :
    ∃ after, readScalar false floor ⟨singleText indent scalar.text.toList ++ rest, column, fresh⟩ =
      .ok (scalar, ⟨rest, after, false⟩) := by
  obtain ⟨after, read⟩ := readQuoted_single single indented closed column fresh
  exact ⟨after, (readScalar_single read).trans (by rw [Scalar.eq_of_plain notPlain])⟩

/-! ## Keys -/

/-- How the text of a key is written. -/
inductive KeyForm (key : Scalar) : List Char → Prop where
  | plain (isPlain : key.plain = true) (text : IsPlainText key.text.toList) :
      KeyForm key key.text.toList
  | single (notPlain : key.plain = false) (text : IsSingleText key.text.toList)
      (line : IsLine key.text.toList) : KeyForm key (singleText 1 key.text.toList)
  | double (notPlain : key.plain = false) : KeyForm key (doubleText key.text.toList)

theorem keyForm (writable : key.IsWritable) : KeyForm key (keyText key) := by
  have suits := Scalar.style_suits writable
  have isPlain := key.plain_eq
  rw [keyText]
  cases style : key.style with
  | plain =>
      rw [style] at suits isPlain
      exact .plain isPlain suits
  | single =>
      rw [style] at suits isPlain
      dsimp only
      split
      · exact .double isPlain
      · next noBreaks =>
          have line : IsLine key.text.toList := by simpa [IsLine] using noBreaks
          rw [(singleText_of_isLine line 0).1, ← (singleText_of_isLine line 1).1]
          exact .single isPlain suits line
  | double =>
      rw [style] at isPlain
      exact .double isPlain
  | literal =>
      rw [style] at isPlain
      exact .double isPlain

/-- A scalar that can be written as a key. -/
structure Scalar.IsKey (key : Scalar) : Prop where
  writable : key.IsWritable
  short : (keyText key).length ≤ 1024

namespace Scalar.IsKey

variable (isKey : key.IsKey)

include isKey

theorem isInline : IsInline (keyText key) := by
  have form := keyForm isKey.writable
  generalize keyText key = written at form ⊢
  cases form with
  | plain _ text => exact ⟨text.isPrintable, text.bare_parts.2.1⟩
  | single _ text line =>
      have printable : IsPrintable key.text.toList := fun _ => isPrintable_of_mem text.printable
      exact ⟨isPrintable_singleText 1 printable, (singleText_of_isLine line 1).2⟩
  | double => exact isInline_doubleText _

theorem opensScalar (rest : List Char) : OpensScalar (keyText key ++ ':' :: rest) := by
  have form := keyForm isKey.writable
  generalize keyText key = written at form ⊢
  cases form with
  | plain _ text => exact text.opensScalar rest (.inr rfl)
  | single => exact .of_quote (.inl rfl) _
  | double => exact .of_quote (.inr rfl) _

/-- A key is read back up to its colon. -/
theorem readScalar_eq (floor column : Nat) (fresh : Bool) (ends : endsWord rest = true) :
    ∃ after, readScalar false floor ⟨keyText key ++ ':' :: rest, column, fresh⟩ =
      .ok (key, ⟨':' :: rest, after, false⟩) := by
  have form := keyForm isKey.writable
  generalize keyText key = written at form ⊢
  cases form with
  | plain isPlain text =>
      exact ⟨_, (text.readScalar_key ends).trans (by rw [Scalar.eq_of_plain isPlain])⟩
  | single notPlain text =>
      exact readScalar_singleText notPlain text Nat.one_pos (by simp) floor column fresh
  | double notPlain => exact readScalar_doubleText notPlain _ floor column fresh

/-- The colon behind a key, and that it belongs to the key. -/
theorem exists_colon (floor column : Nat) (fresh : Bool) (ends : endsWord rest = true) :
    ∃ after, readScalar false floor ⟨keyText key ++ ':' :: rest, column, fresh⟩ =
        .ok (key, ⟨':' :: rest, after, false⟩) ∧
      (⟨':' :: rest, after, false⟩ : Cursor).skip false = (⟨':' :: rest, after, false⟩, false) ∧
      (⟨':' :: rest, after, false⟩ : Cursor).atColon false = true ∧
      (⟨keyText key ++ ':' :: rest, column, fresh⟩ : Cursor).spansKey ⟨':' :: rest, after, false⟩ =
        true := by
  obtain ⟨after, read⟩ := isKey.readScalar_eq floor column fresh ends
  refine ⟨after, read, ?_, ends, ?_⟩
  · exact skipFrom_visible false true false false after (by decide) (by decide) (by decide)
  · have length : (keyText key ++ ':' :: rest).length - (':' :: rest).length =
        (keyText key).length := by simp
    have line := isKey.isInline.line
    simp only [Cursor.spansKey, length, List.take_left', Bool.and_eq_true, decide_eq_true_eq]
    exact ⟨isKey.short, by simpa [IsLine] using line⟩

end Scalar.IsKey

theorem length_hexDigits (count value : Nat) : (hexDigits count value).length = count := by
  induction count generalizing value with
  | zero => rfl
  | succ count ih => simp [hexDigits, ih]

theorem length_doubleChar_le (c : Char) : (doubleChar c).length ≤ 10 := by
  rw [doubleChar]
  split
  · simp
  · split
    · simp
    · split
      · simp [length_hexDigits]
      · split <;> simp [length_hexDigits]

theorem length_flatMap_le {write : Char → List Char} {bound : Nat}
    (bounded : ∀ c, (write c).length ≤ bound) (chars : List Char) :
    (chars.flatMap write).length ≤ bound * chars.length := by
  induction chars with
  | nil => simp
  | cons c chars ih =>
      have first := bounded c
      rw [List.flatMap_cons, List.length_append, List.length_cons, Nat.mul_succ]
      omega

/-- Every text of up to a hundred characters can be a key. -/
theorem isKey_ofText {text : String} (short : text.toList.length ≤ 100) :
    (Scalar.ofText text).IsKey := by
  have form := keyForm (Scalar.isWritable_ofText text)
  refine ⟨Scalar.isWritable_ofText text, ?_⟩
  generalize keyText (Scalar.ofText text) = written at form ⊢
  cases form with
  | plain => exact Nat.le_trans short (by decide)
  | single _ _ line =>
      have twice : (doubleQuotes text.toList).length ≤ 2 * text.toList.length :=
        length_flatMap_le (fun c => by split <;> simp) _
      rw [(singleText_of_isLine line 1).1, List.length_cons, List.length_append]
      simp only [Scalar.ofText, List.length_singleton]
      omega
  | double =>
      have wider := length_flatMap_le length_doubleChar_le text.toList
      simp only [doubleText, Scalar.ofText, List.length_append, List.length_cons, List.length_nil]
      omega

/-! ## Scalars at the end of a line -/

theorem isToken_scalarLine (indent : Nat) (writable : scalar.IsWritable) (rest : List Char) :
    IsToken (scalarLine indent scalar ++ rest) := by
  have suits := Scalar.style_suits writable
  rw [scalarLine]
  cases style : scalar.style with
  | plain =>
      rw [style] at suits
      simpa using (IsPlainText.opensScalar suits rest (.inl rfl)).token
  | single => exact .of_mark (by decide) _
  | double => exact .of_mark (by decide) _
  | literal => exact .of_mark (by decide) _

theorem isPrintable_literalText (indent : Nat) (printable : IsPrintable chars) :
    IsPrintable (literalText indent chars) := by
  have digit : IsPrintable (if (chars.head?.map isMargin).getD false then ['2'] else []) := by
    split <;> decide
  have mark : IsPrintable (chompMark chars) := by
    rw [chompMark]
    repeat' split
    all_goals decide
  have lines := isPrintable_indentLines indent true printable
  have bar : isPrintable '|' = true ∧ isPrintable '\n' = true := by decide
  simp [literalText, digit, mark, lines, bar]

theorem isPrintable_scalarLine (writable : scalar.IsWritable) :
    IsPrintable (scalarLine indent scalar) := by
  have suits := Scalar.style_suits writable
  have line : isPrintable '\n' = true := by decide
  rw [scalarLine]
  cases style : scalar.style with
  | plain =>
      rw [style] at suits
      simp [IsPlainText.isPrintable suits, line]
  | single =>
      rw [style] at suits
      have printable := isPrintable_singleText indent
        fun _ => isPrintable_of_mem (IsSingleText.printable suits)
      simp [printable, line]
  | double => simp [(isInline_doubleText scalar.text.toList).printable, line]
  | literal =>
      rw [style] at suits
      have printable := isPrintable_literalText indent
        fun _ => isPrintable_of_mem (IsLiteralText.printable suits)
      have closed : IsPrintable (if endsInBreak scalar.text.toList then [] else ['\n']) := by
        split <;> decide
      simp [printable, closed]

theorem OpensScalar.not_atEntry (opens : OpensScalar text) :
    (⟨text, column, fresh⟩ : Cursor).atEntry = false := by
  rw [Cursor.atEntry]
  split
  · next rest isDash => exact opens.noEntry rest isDash
  · rfl

/-- Where a scalar starts, the reader of a node reads it and looks for a colon behind it. -/
theorem OpensScalar.blockNode_eq (opens : OpensScalar text) {after : Cursor}
    (read : readScalar false floor ⟨text, column, fresh⟩ = .ok (scalar, after))
    (skipped : (after.skip false).1 = next) :
    blockNode (fuel + 1) floor ⟨text, column, fresh⟩ =
      if fresh && next.atColon false && (⟨text, column, fresh⟩ : Cursor).spansKey next then
        blockEntries fuel column [] scalar next
      else .ok (.scalar scalar, next) := by
  rw [blockNode, opens.not_atEntry]
  simp only [Bool.false_eq_true, if_false]
  split
  · exact (opens.noMark '[' (by simp) rfl).elim
  · exact (opens.noMark '\x7b' (by simp) rfl).elim
  · exact (opens.noMark '|' (by simp) rfl).elim
  · exact (opens.noMark '>' (by simp) rfl).elim
  · simp only [read, bind, Except.bind, skipped, pure, Except.pure]

/-- A scalar on the last of its lines is read back. -/
theorem blockNode_of_readScalar (follows : IsNext rest next) (opens : OpensScalar text)
    {after : Cursor} (read : readScalar false floor ⟨text, column, fresh⟩ = .ok (scalar, after))
    (skipped : (after.skip false).1 = next) :
    blockNode (fuel + 1) floor ⟨text, column, fresh⟩ = .ok (.scalar scalar, next) := by
  rw [opens.blockNode_eq read skipped, follows.not_atColon, Bool.and_false, Bool.false_and]
  rfl

theorem blockNode_literal {after : List Char} {result : String} (fuel : Nat)
    (follows : IsNext rest next)
    (read : readBlock false floor ⟨'|' :: after, column, fresh⟩ = .ok (result, ⟨rest, 0, true⟩)) :
    blockNode (fuel + 1) floor ⟨'|' :: after, column, fresh⟩ =
      .ok (.scalar ⟨false, result⟩, next) := by
  have noEntry : (⟨'|' :: after, column, fresh⟩ : Cursor).atEntry = false := rfl
  have skipped : (⟨rest, 0, true⟩ : Cursor).skip false = (next, false) :=
    follows.skipFrom false false
  rw [blockNode, noEntry]
  simp only [Bool.false_eq_true, if_false, read, bind, Except.bind, skipped, pure, Except.pure]

/-- A scalar at the end of a line is read back. -/
theorem blockNode_scalarLine (writable : scalar.IsWritable) (follows : IsNext rest next)
    (below : next.IsBelow floor) :
    blockNode (fuel + 1) floor ⟨scalarLine (floor - 1 + 2) scalar ++ rest, column, fresh⟩ =
      .ok (.scalar scalar, next) := by
  have suits := Scalar.style_suits writable
  have isPlain := scalar.plain_eq
  have atLine (after : Nat) : ((⟨'\n' :: rest, after, false⟩ : Cursor).skip false).1 = next := by
    rw [follows.skip_line]
  rw [scalarLine]
  cases style : scalar.style with
  | plain =>
      rw [style] at suits isPlain
      have read := IsPlainText.readScalar_line suits column fresh follows below
      rw [@Scalar.eq_of_plain _ true isPlain] at read
      rw [List.append_assoc]
      exact blockNode_of_readScalar follows (IsPlainText.opensScalar suits rest (.inl rfl)) read
        (by rw [follows.skip])
  | single =>
      rw [style] at suits isPlain
      have closed : ('\n' :: rest).head? ≠ some '\'' := by simp
      obtain ⟨after, read⟩ := readScalar_singleText isPlain suits (Nat.succ_pos (floor - 1 + 1))
        closed floor column fresh
      rw [List.append_assoc]
      exact blockNode_of_readScalar follows (.of_quote (.inl rfl) _) read (atLine after)
  | double =>
      rw [style] at isPlain
      obtain ⟨after, read⟩ := readScalar_doubleText isPlain ('\n' :: rest) floor column fresh
      rw [List.append_assoc]
      exact blockNode_of_readScalar follows (.of_quote (.inr rfl) _) read (atLine after)
  | literal =>
      rw [style] at suits isPlain
      have read := blockNode_literal fuel follows
        (readBlock_literal suits follows below column fresh)
      rw [@Scalar.eq_of_plain _ false isPlain] at read
      rw [List.append_assoc]
      exact read

end RouteAtlas.Yaml
