/-
Module: RouteAtlas.Proofs.YamlBlocks
Purpose: A text that is written as a literal block is read back line by line, up to a line that
  does not belong to it.
Main exports: Yaml.AreLines, Yaml.blockFrom_lines, Yaml.readBlock_literal
-/
import RouteAtlas.Proofs.YamlTokens

namespace RouteAtlas.Yaml

variable {c ending : Char} {chars text rest : List Char} {column floor : Nat} {next : Cursor}
  {lines : List (List Char × Char)}

/-! ## Lines -/

theorem splitLines_break (breaks : isBreak c = true) (rest : List Char) :
    splitLines (c :: rest) = ⟨[], some c⟩ :: splitLines rest := by
  rw [splitLines, if_pos breaks]

theorem splitLines_append {line : Line} {others : List Line} (isLine : IsLine text)
    (split : splitLines rest = line :: others) :
    splitLines (text ++ rest) = ⟨text ++ line.text, line.ending⟩ :: others := by
  induction text with
  | nil => exact split
  | cons c text ih =>
      obtain ⟨noBreak, isLineRest⟩ := isLine_cons.mp isLine
      rw [List.cons_append, splitLines, noBreak, ih isLineRest]
      rfl

/-- One line and its end. -/
theorem splitLines_line (isLine : IsLine text) (breaks : isBreak ending = true)
    (rest : List Char) :
    splitLines (text ++ ending :: rest) = ⟨text, some ending⟩ :: splitLines rest := by
  rw [splitLines_append isLine (splitLines_break breaks rest), List.append_nil]

theorem exists_splitLines_cons (noBreak : isBreak c = false) (rest : List Char) :
    ∃ text ending others, splitLines (c :: rest) = ⟨c :: text, ending⟩ :: others := by
  rw [splitLines, noBreak]
  cases splitLines rest with
  | nil => exact ⟨[], none, [], rfl⟩
  | cons line others => exact ⟨line.text, line.ending, others, rfl⟩

theorem joinLines_splitLines (text : List Char) : joinLines (splitLines text) = text := by
  induction text with
  | nil => rfl
  | cons c text ih =>
      rw [splitLines]
      split
      · exact congrArg (c :: ·) ih
      · cases split : splitLines text with
        | nil =>
            rw [split] at ih
            exact congrArg (c :: ·) ih
        | cons line others =>
            rw [split] at ih
            exact congrArg (c :: ·) ih

/-- The text of lines that all have an end. -/
def linesText (lines : List (List Char × Char)) : List Char :=
  lines.flatMap fun line => line.1 ++ [line.2]

/-- Whether the parts of lines are what they say: texts without line breaks, and line breaks. -/
def AreLines (lines : List (List Char × Char)) : Prop :=
  ∀ line ∈ lines, IsLine line.1 ∧ isBreak line.2 = true

theorem linesText_cons (text : List Char) (ending : Char) (lines : List (List Char × Char)) :
    linesText ((text, ending) :: lines) = text ++ ending :: linesText lines := by
  simp [linesText]

theorem endsInBreak_cons (more : rest ≠ []) : endsInBreak (c :: rest) = endsInBreak rest := by
  cases rest with
  | nil => exact (more rfl).elim
  | cons d rest => rw [endsInBreak, endsInBreak, List.getLast?_cons_cons]

/-- A text that ends in a line break is made of lines. -/
theorem exists_lines (ends : endsInBreak chars = true) :
    ∃ lines, AreLines lines ∧ linesText lines = chars := by
  induction chars with
  | nil => cases ends
  | cons c rest ih =>
      by_cases isLast : rest = []
      · subst isLast
        exact ⟨[([], c)], List.forall_mem_singleton.mpr ⟨isLine_nil, ends⟩, rfl⟩
      · rw [endsInBreak_cons isLast] at ends
        obtain ⟨lines, areLines, rfl⟩ := ih ends
        cases breaks : isBreak c with
        | true =>
            exact ⟨([], c) :: lines, List.forall_mem_cons.mpr ⟨⟨isLine_nil, breaks⟩, areLines⟩, rfl⟩
        | false =>
            cases lines with
            | nil => exact (isLast rfl).elim
            | cons line lines =>
                obtain ⟨⟨isLine, closed⟩, others⟩ := List.forall_mem_cons.mp areLines
                refine ⟨(c :: line.1, line.2) :: lines, ?_, rfl⟩
                exact List.forall_mem_cons.mpr
                  ⟨⟨isLine_cons.mpr ⟨breaks, isLine⟩, closed⟩, others⟩

/-- A line that is not empty is indented. -/
theorem indentLines_line (nonempty : text ≠ []) (isLine : IsLine text)
    (breaks : isBreak ending = true) :
    indentLines column true (text ++ ending :: rest) =
      spaces column ++ text ++ ending :: indentLines column true rest := by
  cases text with
  | nil => exact (nonempty rfl).elim
  | cons c text =>
      obtain ⟨noBreak, isLineRest⟩ := isLine_cons.mp isLine
      rw [List.cons_append, indentLines_cons noBreak, indentLines_append isLineRest,
        indentLines_break breaks]
      simp

theorem spacesOf_spaces_append (column : Nat) (text : List Char) :
    spacesOf (spaces column ++ text) = column + spacesOf text := by
  induction column with
  | zero => rw [Nat.zero_add]; rfl
  | succ column ih =>
      have longer : spacesOf (' ' :: (spaces column ++ text)) =
          spacesOf (spaces column ++ text) + 1 := by simp [spacesOf]
      rw [spaces, List.replicate_succ, List.cons_append]
      exact longer.trans (by rw [ih]; omega)

/-- A text that starts with something else than a blank is as far from the margin as it is
indented. -/
theorem spacesOf_indented (column : Nat) (noBlank : isBlank c = false) (text : List Char) :
    spacesOf (spaces column ++ c :: text) = column := by
  have noSpace : c ≠ ' ' := by
    rintro rfl
    cases noBlank
  have noSpaces : spacesOf (c :: text) = 0 := by simp [spacesOf, noSpace]
  rw [spacesOf_spaces_append, noSpaces, Nat.add_zero]

theorem drop_spaces_append (column : Nat) (text : List Char) :
    (spaces column ++ text).drop column = text := by
  have length : (spaces column).length = column := List.length_replicate
  exact List.drop_left' length

/-! ## Reading lines -/

namespace BlockText

/-- Add a line as it was written. -/
def addWritten (block : BlockText) (line : List Char × Char) : BlockText :=
  if line.1 = [] then { block with empties := line.2 :: block.empties }
  else block.addLine false line.1 (some line.2)

/-- Together with its end a block has the lines that were added. -/
theorem finish_addWritten (block : BlockText) (line : List Char × Char) :
    (block.addWritten line).finish .keep =
      (line.1 ++ [line.2]).reverse ++ block.finish .keep := by
  rw [addWritten]
  split
  · next isEmpty => simp [finish, isEmpty]
  · simp [finish, addLine]

theorem finish_foldl (lines : List (List Char × Char)) (block : BlockText) :
    (lines.foldl addWritten block).finish .keep =
      (linesText lines).reverse ++ block.finish .keep := by
  induction lines generalizing block with
  | nil => rfl
  | cons line lines ih => rw [List.foldl_cons, ih, finish_addWritten]; simp [linesText]

theorem addWritten_of_ne_nil (block : BlockText) (nonempty : text ≠ []) :
    (block.addWritten (text, ending)).ending = some ending ∧
      (block.addWritten (text, ending)).empties = [] := by
  rw [addWritten, if_neg nonempty]
  exact ⟨rfl, rfl⟩

end BlockText

/-- The lines of a block are added one after the other. -/
theorem blockFrom_lines (areLines : AreLines lines) (block : BlockText) :
    blockFrom false column block
        (splitLines (indentLines column true (linesText lines) ++ rest)) =
      blockFrom false column (lines.foldl BlockText.addWritten block) (splitLines rest) := by
  induction lines generalizing block with
  | nil => rfl
  | cons line lines ih =>
      obtain ⟨text, ending⟩ := line
      obtain ⟨⟨isLine, breaks⟩, others⟩ := List.forall_mem_cons.mp areLines
      rw [linesText_cons, List.foldl_cons, ← ih others]
      by_cases isEmpty : text = []
      · subst isEmpty
        rw [List.nil_append, indentLines_break breaks, List.cons_append,
          splitLines_break breaks]
        simp [blockFrom, BlockText.addWritten]
      · have whole : min column (spacesOf (spaces column ++ text)) = column := by
          rw [spacesOf_spaces_append]
          omega
        rw [indentLines_line isEmpty isLine breaks, List.append_assoc, List.cons_append,
          splitLines_line (isLine_append.mpr ⟨isLine_spaces column, isLine⟩) breaks, blockFrom]
        simp only [whole, drop_spaces_append]
        cases text with
        | nil => exact (isEmpty rfl).elim
        | cons c text => simp [BlockText.addWritten]

/-- A block ends before a line that does not reach its column. -/
theorem blockFrom_end (follows : IsNext rest next) (below : next.IsBelow column)
    (block : BlockText) :
    blockFrom false column block (splitLines rest) = .ok (block, splitLines rest) := by
  cases follows with
  | finished => rfl
  | @token reached text starts =>
      have short : reached < column := below.resolve_left starts.ne_nil
      obtain ⟨c, rest, rfl, noBlank, noBreak, _⟩ := starts.visible
      obtain ⟨text, ending, others, split⟩ := exists_splitLines_cons noBreak rest
      have noTab : c ≠ '\t' := by
        rintro rfl
        cases noBlank
      have width : min column (spacesOf (spaces reached ++ c :: text)) = reached := by
        rw [spacesOf_indented reached noBlank]
        omega
      rw [splitLines_append (isLine_spaces reached) split, blockFrom]
      simp only [width, drop_spaces_append]
      rw [if_neg (by omega), if_neg noTab]

/-! ## The end of a block -/

/-- The mark for what becomes of the line breaks at the end. -/
def Chomp.mark : Chomp → List Char
  | .strip => ['-']
  | .clip => []
  | .keep => ['+']

/-- How a text ends if it is written with the mark. -/
def Chomp.Suits (chars : List Char) : Chomp → Prop
  | .strip => endsInBreak chars = false
  | .clip => ∃ start last, chars = start ++ [last] ∧ isBreak last = true ∧ start ≠ [] ∧
      endsInBreak start = false
  | .keep => endsInBreak chars = true

theorem endsInBreak_concat (chars : List Char) (c : Char) :
    endsInBreak (chars ++ [c]) = isBreak c := by
  simp [endsInBreak]

theorem exists_concat {α : Type} {list : List α} (nonempty : list ≠ []) :
    ∃ start last, list = start ++ [last] := by
  rcases List.eq_nil_or_concat list with isNil | ⟨start, last, isConcat⟩
  · exact (nonempty isNil).elim
  · exact ⟨start, last, isConcat.trans List.concat_eq_append⟩

/-- The mark that is written suits the text. -/
theorem exists_chomp (nonempty : chars ≠ []) :
    ∃ chomp : Chomp, chompMark chars = chomp.mark ∧ chomp.Suits chars := by
  obtain ⟨start, c, rfl⟩ := exists_concat nonempty
  have ends := endsInBreak_concat start c
  by_cases isOnly : start = []
  · subst isOnly
    cases breaks : isBreak c with
    | false => exact ⟨.strip, by simp [chompMark, breaks, Chomp.mark], ends.trans breaks⟩
    | true => exact ⟨.keep, by simp [chompMark, breaks, Chomp.mark], ends.trans breaks⟩
  · obtain ⟨start, d, rfl⟩ := exists_concat isOnly
    cases breaks : isBreak c with
    | false => exact ⟨.strip, by simp [chompMark, breaks, Chomp.mark], ends.trans breaks⟩
    | true =>
        cases before : isBreak d with
        | true => exact ⟨.keep, by simp [chompMark, breaks, before, Chomp.mark], ends.trans breaks⟩
        | false =>
            refine ⟨.clip, by simp [chompMark, breaks, before, Chomp.mark], _, c, rfl, breaks,
              isOnly, ?_⟩
            rw [endsInBreak_concat, before]

/-- A text with a line feed at its end, unless there is a line break. -/
def closeLast (chars : List Char) : List Char :=
  chars ++ if endsInBreak chars then [] else ['\n']

theorem endsInBreak_closeLast (chars : List Char) : endsInBreak (closeLast chars) = true := by
  rw [closeLast]
  cases ends : endsInBreak chars with
  | true => simpa using ends
  | false => exact endsInBreak_concat chars '\n'

theorem linesText_concat (lines : List (List Char × Char)) (text : List Char) (ending : Char) :
    linesText (lines ++ [(text, ending)]) = (linesText lines ++ text) ++ [ending] := by
  simp [linesText]

theorem endsInBreak_linesText (areLines : AreLines lines) (nonempty : lines ≠ []) :
    endsInBreak (linesText lines) = true := by
  obtain ⟨start, ⟨text, ending⟩, rfl⟩ := exists_concat nonempty
  rw [linesText_concat, endsInBreak_concat]
  exact (areLines (text, ending) (by simp)).2

/-- Where something other than a line break stands before the last line break, the last line is not
empty. -/
theorem foldl_lastLine (areLines : AreLines lines) (written : linesText lines = text ++ [ending])
    (nonempty : text ≠ []) (isOpen : endsInBreak text = false) (block : BlockText) :
    (lines.foldl BlockText.addWritten block).ending = some ending ∧
      (lines.foldl BlockText.addWritten block).empties = [] := by
  have some : lines ≠ [] := by
    rintro rfl
    simp [linesText] at written
  obtain ⟨start, ⟨last, lastEnding⟩, rfl⟩ := exists_concat some
  rw [linesText_concat, List.append_singleton_inj] at written
  obtain ⟨rfl, rfl⟩ := written
  -- An empty last line would leave a line break at the end of the text before it.
  have lastNonempty : last ≠ [] := by
    rintro rfl
    rw [List.append_nil] at nonempty isOpen
    have more : start ≠ [] := by
      rintro rfl
      exact nonempty rfl
    have startLines : AreLines start := fun line inside => areLines line (by simp [inside])
    rw [endsInBreak_linesText startLines more] at isOpen
    cases isOpen
  rw [List.foldl_append]
  exact BlockText.addWritten_of_ne_nil _ lastNonempty

/-- What is left of the lines of a text once the line breaks at the end are treated as their mark
says. -/
theorem finish_lines {chomp : Chomp} (nonempty : chars ≠ []) (suits : chomp.Suits chars)
    (areLines : AreLines lines) (written : linesText lines = closeLast chars) :
    ((lines.foldl BlockText.addWritten ⟨[], none, [], false⟩).finish chomp).reverse = chars := by
  have kept := BlockText.finish_foldl lines ⟨[], none, [], false⟩
  rw [written] at kept
  cases chomp with
  | keep =>
      have closed : closeLast chars = chars := by
        simp [closeLast, show endsInBreak chars = true from suits]
      rw [kept, closed]
      simp [BlockText.finish]
  | clip =>
      obtain ⟨start, last, rfl, breaks, more, isOpen⟩ := suits
      have closed : closeLast (start ++ [last]) = start ++ [last] := by
        simp [closeLast, endsInBreak_concat, breaks]
      rw [closed] at written kept
      obtain ⟨ending, empties⟩ := foldl_lastLine areLines written more isOpen ⟨[], none, [], false⟩
      simp only [BlockText.finish, empties, List.nil_append] at kept ⊢
      rw [kept]
      simp
  | strip =>
      have closed : closeLast chars = chars ++ ['\n'] := by
        simp [closeLast, show endsInBreak chars = false from suits]
      rw [closed] at written kept
      obtain ⟨ending, empties⟩ :=
        foldl_lastLine areLines written nonempty suits ⟨[], none, [], false⟩
      simp only [BlockText.finish, empties, ending, Option.toList] at kept ⊢
      simpa using congrArg List.reverse kept

/-! ## Literal blocks -/

/-- Characters that a literal block can hold: at least one, and all of them printable. -/
structure IsLiteralText (chars : List Char) : Prop where
  nonempty : chars ≠ []
  printable : needsEscapes chars = false

/-- The digit that gives the indentation of a text whose first line does not show it. -/
def indentDigit (chars : List Char) : List Char :=
  if (chars.head?.map isMargin).getD false then ['2'] else []

theorem indentLines_closeLast (chars : List Char) :
    indentLines column true (closeLast chars) =
      indentLines column true chars ++ if endsInBreak chars then [] else ['\n'] := by
  have concat (fresh : Bool) : indentLines column fresh (chars ++ ['\n']) =
      indentLines column fresh chars ++ ['\n'] := by
    have isLine : isBreak '\n' = true := by decide
    induction chars generalizing fresh with
    | nil => simp [indentLines, isLine]
    | cons c chars ih =>
        rw [List.cons_append, indentLines, indentLines, ih, ih]
        split <;> simp
  rw [closeLast]
  split
  · rw [List.append_nil, List.append_nil]
  · exact concat true

theorem readMarks_mark (chomp : Chomp) (rest : List Char) :
    readMarks (chomp.mark ++ '\n' :: rest) = (⟨chomp, none⟩, '\n' :: rest) := by
  cases chomp <;> rfl

theorem readMarks_digit (chomp : Chomp) (rest : List Char) :
    readMarks ('2' :: (chomp.mark ++ '\n' :: rest)) = (⟨chomp, some 2⟩, '\n' :: rest) := by
  cases chomp <;> rfl

theorem dropHeaderEnd_line (rest : List Char) : dropHeaderEnd false ('\n' :: rest) = .ok rest := by
  have isLine : isBreak '\n' = true := by decide
  rw [dropHeaderEnd, if_pos isLine]

/-- A first line that starts with something else than a blank shows the indentation. -/
theorem measure_line {others : List Line} {ending : Option Char} (noBlank : isBlank c = false) :
    measure [] 0 (⟨spaces column ++ c :: text, ending⟩ :: others) =
      .ok ([], column, ⟨spaces column ++ c :: text, ending⟩ :: others) := by
  have noTab : (c == '\t') = false := by
    refine beq_false_of_ne ?_
    rintro rfl
    cases noBlank
  rw [measure]
  simp only [spacesOf_indented column noBlank, drop_spaces_append, Nat.zero_max, noTab,
    Bool.false_eq_true, if_false]

/-- Lines show their indentation if their text starts with something else than a space or a line
break. -/
theorem measure_lines (column : Nat) (rest : List Char) (printable : needsEscapes chars = false)
    (noMargin : (chars.head?.map isMargin).getD false = false) (areLines : AreLines lines)
    (nonempty : chars ≠ []) (written : linesText lines = closeLast chars) :
    measure [] 0 (splitLines (indentLines column true (linesText lines) ++ rest)) =
      .ok ([], column, splitLines (indentLines column true (linesText lines) ++ rest)) := by
  cases chars with
  | nil => exact (nonempty rfl).elim
  | cons c chars =>
      have isText : isMargin c = false := noMargin
      rw [isMargin, Bool.or_eq_false_iff] at isText
      have noBlank : isBlank c = false := Bool.eq_false_iff.mpr fun blank => by
        have isSpace :=
          isBlank_of_isPrintable (isPrintable_of_mem printable List.mem_cons_self) blank
        exact absurd isText.1 (by simp [isSpace])
      rw [closeLast, List.cons_append] at written
      match lines with
      | [] => cases written
      | ([], ending) :: lines =>
          rw [linesText_cons] at written
          obtain ⟨rfl, _⟩ := List.cons.inj written
          have breaks : isBreak ending = true := (List.forall_mem_cons.mp areLines).1.2
          rw [breaks] at isText
          cases isText.2
      | (d :: text, ending) :: lines =>
          obtain ⟨⟨isLine, breaks⟩, _⟩ := List.forall_mem_cons.mp areLines
          rw [linesText_cons] at written
          obtain ⟨rfl, _⟩ := List.cons.inj written
          rw [linesText_cons, indentLines_line (List.cons_ne_nil d text) isLine breaks,
            List.append_assoc, List.cons_append,
            splitLines_line (isLine_append.mpr ⟨isLine_spaces column, isLine⟩) breaks]
          exact measure_line noBlank

section

variable {chomp : Chomp} {marks : List Char} {block : BlockText} {left : List Line} {start : Nat}
  {fresh : Bool}

theorem readBlock_given {given : Nat}
    (marked : readMarks marks = (⟨chomp, some given⟩, '\n' :: rest))
    (ran : blockFrom false (floor - 1 + given) ⟨[], none, [], false⟩ (splitLines rest) =
      .ok (block, left)) :
    readBlock false floor ⟨'|' :: marks, start, fresh⟩ =
      .ok (String.ofList (block.finish chomp).reverse, ⟨joinLines left, 0, true⟩) := by
  simp only [readBlock, List.tail_cons, marked, dropHeaderEnd_line, ran, bind, Except.bind, pure,
    Except.pure]

theorem readBlock_shown {reached : Nat}
    (marked : readMarks marks = (⟨chomp, none⟩, '\n' :: rest))
    (measured : measure [] 0 (splitLines rest) = .ok ([], reached, splitLines rest))
    (ran : blockFrom false (max reached (max floor 1)) ⟨[], none, [], false⟩ (splitLines rest) =
      .ok (block, left)) :
    readBlock false floor ⟨'|' :: marks, start, fresh⟩ =
      .ok (String.ofList (block.finish chomp).reverse, ⟨joinLines left, 0, true⟩) := by
  simp only [readBlock, List.tail_cons, marked, dropHeaderEnd_line, measured, ran, bind,
    Except.bind, pure, Except.pure]

end

/-- A literal block is read back up to a line that does not belong to it. -/
theorem readBlock_literal (literal : IsLiteralText chars) (follows : IsNext rest next)
    (below : next.IsBelow floor) (start : Nat) (fresh : Bool) :
    readBlock false floor
        ⟨literalText (floor - 1 + 2) chars ++
          ((if endsInBreak chars then [] else ['\n']) ++ rest), start, fresh⟩ =
      .ok (String.ofList chars, ⟨rest, 0, true⟩) := by
  obtain ⟨chomp, marked, suits⟩ := exists_chomp literal.nonempty
  obtain ⟨lines, areLines, written⟩ := exists_lines (endsInBreak_closeLast chars)
  have body : indentLines (floor - 1 + 2) true chars ++
      ((if endsInBreak chars then [] else ['\n']) ++ rest) =
      indentLines (floor - 1 + 2) true (linesText lines) ++ rest := by
    rw [written, indentLines_closeLast, List.append_assoc]
  have text : literalText (floor - 1 + 2) chars ++
      ((if endsInBreak chars then [] else ['\n']) ++ rest) =
      '|' :: (indentDigit chars ++ (chomp.mark ++ '\n' ::
        (indentLines (floor - 1 + 2) true (linesText lines) ++ rest))) := by
    rw [← body, ← marked]
    simp [literalText, indentDigit]
  have ran : blockFrom false (floor - 1 + 2) ⟨[], none, [], false⟩
      (splitLines (indentLines (floor - 1 + 2) true (linesText lines) ++ rest)) =
      .ok (lines.foldl BlockText.addWritten ⟨[], none, [], false⟩, splitLines rest) := by
    rw [blockFrom_lines areLines]
    exact blockFrom_end follows (below.imp_right fun left => by omega) _
  have finished := finish_lines literal.nonempty suits areLines written
  rw [text]
  -- The indentation is written in the header where the first line does not show it.
  cases margin : (chars.head?.map isMargin).getD false with
  | true =>
      have digit : indentDigit chars = ['2'] := by rw [indentDigit, margin]; rfl
      rw [digit, List.singleton_append, readBlock_given (readMarks_digit chomp _) ran, finished,
        joinLines_splitLines]
  | false =>
      have digit : indentDigit chars = [] := by rw [indentDigit, margin]; rfl
      have measured := measure_lines (floor - 1 + 2) rest literal.printable margin areLines
        literal.nonempty written
      have reached : max (floor - 1 + 2) (max floor 1) = floor - 1 + 2 := by omega
      rw [digit, List.nil_append, readBlock_shown (readMarks_mark chomp _) measured
        ((congrArg (blockFrom false · _ _) reached).trans ran), finished, joinLines_splitLines]

end RouteAtlas.Yaml
