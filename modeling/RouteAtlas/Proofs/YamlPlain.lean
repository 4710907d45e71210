/-
Module: RouteAtlas.Proofs.YamlPlain
Purpose: A scalar that is written without quotes is read back, as a value and as a key.
Main exports: Yaml.IsPlainText, Yaml.IsPlainText.readScalar_line,
  Yaml.IsPlainText.readScalar_key
-/
import RouteAtlas.Proofs.YamlTokens

namespace RouteAtlas.Yaml

variable {c : Char} {chars rest stop read : List Char} {gap : Gap} {column floor : Nat}
  {next : Cursor}

/-! ## Marks -/

theorem endsWord_append (stays : endsWord rest = false) : endsWord (rest ++ stop) = false := by
  cases rest with
  | nil => cases stays
  | cons c rest => exact stays

theorem hasMarks_cons (unmarked : hasMarks (c :: rest) = false) :
    (c = ':' → endsWord rest = false) ∧ (c = ' ' → rest.head? ≠ some '#') ∧
      hasMarks rest = false := by
  rw [hasMarks.eq_def] at unmarked
  split at unmarked
  · next after isColon =>
      obtain ⟨rfl, rfl⟩ := List.cons.inj isColon
      rw [Bool.or_eq_false_iff] at unmarked
      exact ⟨fun _ => unmarked.1, nofun, unmarked.2⟩
  · next after notColon isComment =>
      obtain ⟨rfl, rfl⟩ := List.cons.inj isComment
      rw [Bool.or_eq_false_iff] at unmarked
      refine ⟨fun isColon => absurd isColon (by simpa using notColon), ?_, unmarked.2⟩
      rintro rfl
      exact absurd unmarked.1 (by decide)
  · next notColon notComment isCons =>
      obtain ⟨rfl, rfl⟩ := List.cons.inj isCons
      refine ⟨fun isColon => (notColon isColon).elim, ?_, unmarked⟩
      intro _ comment
      cases rest with
      | nil => cases comment
      | cons d others =>
          cases comment
          exact notComment others rfl
  · next isNil => cases isNil

theorem startsMarked_cons (unmarked : startsMarked (c :: rest) = false) :
    isReserved c = false ∧ (c = '?' ∨ c = ':' ∨ c = '-' → endsWord rest = false) ∧
      ∀ mark ∈ ['-', '.'], ∀ others, c :: rest ≠ mark :: mark :: mark :: others := by
  rw [startsMarked.eq_def] at unmarked
  split at unmarked
  · cases unmarked
  · cases unmarked
  · next first others notDashes notDots isCons =>
      obtain ⟨rfl, rfl⟩ := List.cons.inj isCons
      simp only [Bool.or_eq_false_iff, Bool.and_eq_false_iff] at unmarked
      refine ⟨unmarked.1, ?_, ?_⟩
      · intro isMark
        refine unmarked.2.resolve_left ?_
        rcases isMark with rfl | rfl | rfl <;> decide
      · intro mark isMark others marked
        obtain ⟨rfl, rfl⟩ := List.cons.inj marked
        simp only [List.mem_cons, List.not_mem_nil, or_false] at isMark
        rcases isMark with rfl | rfl
        · exact notDashes others rfl rfl
        · exact notDots others rfl rfl
  · next isNil => cases isNil

theorem isMarker_eq_false
    (unmarked : ∀ mark ∈ ['-', '.'], ∀ others, chars ≠ mark :: mark :: mark :: others) :
    isMarker chars = false := by
  rw [isMarker.eq_def]
  split
  · next rest => exact absurd rfl (unmarked '-' (by simp) rest)
  · next rest => exact absurd rfl (unmarked '.' (by simp) rest)
  · rfl

/-! ## Characters of a plain scalar -/

theorem plainFrom_space (noLines : gap.isLines = false) :
    plainFrom false floor read gap column (' ' :: rest) =
      plainFrom false floor read (.blanks (' ' :: gap.fold)) (column + 1) rest := by
  have noBreak : isBreak ' ' = false := by decide
  have isSpace : isBlank ' ' = true := by decide
  cases gap with
  | none => simp [plainFrom, Gap.fold, Gap.isLines, noBreak, isSpace]
  | blanks blanks => simp [plainFrom, Gap.fold, Gap.isLines, noBreak, isSpace]
  | lines first others => cases noLines

theorem plainFrom_cons (noLines : gap.isLines = false) (noBreak : isBreak c = false)
    (noBlank : isBlank c = false) (noComment : c = '#' → gap = .none)
    (noColon : c = ':' → endsWord rest = false) :
    plainFrom false floor read gap column (c :: rest) =
      plainFrom false floor (c :: (gap.fold ++ read)) .none (column + 1) rest := by
  have goesOn : endsPlainWord false (c :: rest) = false := by
    by_cases isColon : c = ':'
    · simp [endsPlainWord, noColon isColon]
    · simp [endsPlainWord, isColon]
  have isWord : isLooseColon false (c :: rest) = false := by
    rw [isLooseColon.eq_def]
    split <;> rfl
  have stays : ¬(c = '#' ∧ gap ≠ .none) := by
    rintro ⟨isComment, inGap⟩
    exact inGap (noComment isComment)
  simp [plainFrom, noLines, noBreak, noBlank, goesOn, isWord, stays]

/-- Characters that end no scalar are read one after the other. -/
theorem plainFrom_append (printable : IsPrintable chars)
    (line : IsLine chars) (unmarked : hasMarks chars = false)
    (noLines : gap.isLines = false) (noComment : chars.head? = some '#' → gap = .none)
    (closed : chars.getLast? ≠ some ' ') (apart : chars = [] → gap = .none) :
    plainFrom false floor read gap column (chars ++ stop) =
      plainFrom false floor (chars.reverse ++ (gap.fold ++ read)) .none
        (column + chars.length) stop := by
  induction chars generalizing read gap column with
  | nil =>
      cases apart rfl
      rfl
  | cons c rest ih =>
      obtain ⟨printableFirst, printableRest⟩ := List.forall_mem_cons.mp printable
      obtain ⟨noBreak, lineRest⟩ := isLine_cons.mp line
      obtain ⟨noColon, noNumber, unmarkedRest⟩ := hasMarks_cons unmarked
      have closedRest : rest.getLast? ≠ some ' ' := by
        intro last
        rw [List.getLast?_cons, last] at closed
        exact closed rfl
      have length : column + (c :: rest).length = column + 1 + rest.length := by
        rw [List.length_cons, Nat.add_right_comm, Nat.add_assoc]
      rw [List.cons_append, List.reverse_cons, List.append_assoc, length]
      by_cases isSpace : c = ' '
      · subst isSpace
        -- The space stays in the gap until something follows it, and something does.
        have more : rest ≠ [] := by
          rintro rfl
          exact closed rfl
        rw [plainFrom_space noLines, ih printableRest lineRest unmarkedRest rfl
          (fun comment => absurd comment (noNumber rfl)) closedRest
          (fun isNil => absurd isNil more)]
        rfl
      · have noBlank : isBlank c = false :=
          Bool.eq_false_iff.mpr fun blank =>
            isSpace (isBlank_of_isPrintable printableFirst blank)
        have continues : c = ':' → endsWord (rest ++ stop) = false :=
          fun isColon => endsWord_append (noColon isColon)
        rw [plainFrom_cons noLines noBreak noBlank (fun comment => noComment (by rw [comment]; rfl))
          continues, ih printableRest lineRest unmarkedRest rfl (fun _ => rfl) closedRest
          (fun _ => rfl)]
        rfl

/-! ## Where a plain scalar ends -/

theorem plainFrom_spaces {first : Option Char} {others : List Char} (count : Nat) :
    plainFrom false floor read (.lines first others) column (spaces count ++ rest) =
      plainFrom false floor read (.lines first others) (column + count) rest := by
  induction count generalizing column with
  | zero => rfl
  | succ count ih =>
      have noBreak : isBreak ' ' = false := by decide
      have isSpace : isBlank ' ' = true := by decide
      have step : plainFrom false floor read (.lines first others) column
          (' ' :: (spaces count ++ rest)) =
          plainFrom false floor read (.lines first others) (column + 1) (spaces count ++ rest) := by
        simp [plainFrom, isMarker, noBreak, isSpace]
      rw [spaces, List.replicate_succ, List.cons_append]
      exact step.trans (by rw [ih, Nat.add_right_comm, Nat.add_assoc])

/-- A plain scalar ends with its line if the next token does not reach its column. -/
theorem plainFrom_line (follows : IsNext rest next) (below : next.IsBelow floor) :
    plainFrom false floor read .none column ('\n' :: rest) = .ok (read, next) := by
  have isLine : isBreak '\n' = true := by decide
  have step : plainFrom false floor read .none column ('\n' :: rest) =
      plainFrom false floor read (.lines (some '\n') []) 0 rest := by
    simp [plainFrom, Gap.isLines, Gap.addBreak, isLine]
  rw [step]
  cases follows with
  | finished => rfl
  | @token column text starts =>
      have reached : column < floor := below.resolve_left starts.ne_nil
      obtain ⟨c, rest, rfl, noBlank, noBreak, _⟩ := starts.visible
      rw [plainFrom_spaces, Nat.zero_add]
      simp [plainFrom, Gap.isLines, starts.noMarker, noBlank, noBreak, reached]

/-- A plain key ends at its colon. -/
theorem plainFrom_colon (ends : endsWord rest = true) :
    plainFrom false floor read .none column (':' :: rest) =
      .ok (read, ⟨':' :: rest, column, false⟩) := by
  have noBreak : isBreak ':' = false := by decide
  have noBlank : isBlank ':' = false := by decide
  have isWord : isLooseColon false (':' :: rest) = false := by
    rw [isLooseColon.eq_def]
    split <;> rfl
  simp [plainFrom, Gap.isLines, noBreak, noBlank, endsPlainWord, ends, isWord]

/-! ## Plain texts -/

/-- Characters that stand for themselves without quotes. -/
structure IsPlainText (chars : List Char) : Prop where
  nonempty : chars ≠ []
  printable : needsEscapes chars = false
  bare : isBare chars = true

namespace IsPlainText

variable (plain : IsPlainText chars)

include plain

theorem bare_parts : hasMargin chars = false ∧ IsLine chars ∧
    startsMarked chars = false ∧ hasMarks chars = false := by
  have parts := plain.bare
  simpa [IsLine, isBare, Bool.or_eq_false_iff, and_assoc] using parts

theorem isPrintable : IsPrintable chars :=
  fun _ inside => isPrintable_of_mem plain.printable inside

/-- The first character of a plain text. -/
theorem head : ∃ c rest, chars = c :: rest ∧ isBlank c = false ∧ isReserved c = false ∧
    (c = '?' ∨ c = ':' ∨ c = '-' → endsWord rest = false) ∧
    ∀ mark ∈ ['-', '.'], ∀ others, c :: rest ≠ mark :: mark :: mark :: others := by
  obtain ⟨noMargin, line, unmarked, _⟩ := plain.bare_parts
  cases written : chars with
  | nil => exact (plain.nonempty written).elim
  | cons c rest =>
      subst written
      refine ⟨c, rest, rfl, ?_, startsMarked_cons unmarked⟩
      refine Bool.eq_false_iff.mpr fun blank => ?_
      have isSpace := isBlank_of_isPrintable (plain.isPrintable c List.mem_cons_self) blank
      subst isSpace
      simp [hasMargin, isMargin] at noMargin

/-- Reading a plain text leaves what stands behind it. -/
theorem plainFrom_eq :
    plainFrom false floor [] .none column (chars ++ stop) =
      plainFrom false floor chars.reverse .none (column + chars.length) stop := by
  obtain ⟨noMargin, line, _, unmarked⟩ := plain.bare_parts
  have closed : chars.getLast? ≠ some ' ' := by
    intro last
    simp [hasMargin, last, isMargin] at noMargin
  have run : plainFrom false floor [] .none column (chars ++ stop) =
      plainFrom false floor (chars.reverse ++ []) .none (column + chars.length) stop :=
    plainFrom_append plain.isPrintable line unmarked rfl (fun _ => rfl) closed (fun _ => rfl)
  rwa [List.append_nil] at run

theorem readPlain_eq {after : Cursor}
    (ends : plainFrom false floor chars.reverse .none (column + chars.length) stop =
      .ok (chars.reverse, after)) (fresh : Bool) :
    readPlain false floor ⟨chars ++ stop, column, fresh⟩ = .ok (String.ofList chars, after) := by
  simp [readPlain, plain.plainFrom_eq, ends, bind, Except.bind, pure, Except.pure]

theorem startsPlain_append : startsPlain false (chars ++ stop) = true := by
  obtain ⟨c, rest, rfl, noBlank, unreserved, stays, _⟩ := plain.head
  have noBreak := plain.bare_parts.2.1 c List.mem_cons_self
  rw [List.cons_append, startsPlain]
  by_cases isDash : c = '-'
  · rw [if_pos isDash, endsWord_append (stays (.inr (.inr isDash)))]
    rfl
  · rw [if_neg isDash]
    by_cases isMark : c = ':' ∨ c = '?'
    · have goesOn := stays (isMark.elim (fun colon => .inr (.inl colon)) .inl)
      rw [if_pos isMark, endsWord_append goesOn]
      rfl
    · rw [not_or] at isMark
      simp only [isReserved, List.contains_eq_mem, List.mem_cons, List.not_mem_nil, or_false,
        decide_eq_false_iff_not, not_or] at unreserved
      simp [isMark, noBlank, noBreak, isIndicator, isDash, unreserved]

theorem readScalar_eq {after : Cursor} {fresh : Bool}
    (reads : readPlain false floor ⟨chars ++ stop, column, fresh⟩ =
      .ok (String.ofList chars, after)) :
    readScalar false floor ⟨chars ++ stop, column, fresh⟩ =
      .ok (⟨true, String.ofList chars⟩, after) := by
  obtain ⟨c, rest, written, _, unreserved, _⟩ := plain.head
  rw [readScalar]
  split
  · next quoted =>
      rw [written] at quoted
      cases quoted
      exact absurd unreserved (by decide)
  · next quoted =>
      rw [written] at quoted
      cases quoted
      exact absurd unreserved (by decide)
  · rw [if_pos plain.startsPlain_append, reads]
    rfl

/-- A plain scalar at the end of a line is read back, if what follows does not belong to it. -/
theorem readScalar_line (column : Nat) (fresh : Bool) (follows : IsNext rest next)
    (below : next.IsBelow floor) :
    readScalar false floor ⟨chars ++ '\n' :: rest, column, fresh⟩ =
      .ok (⟨true, String.ofList chars⟩, next) :=
  plain.readScalar_eq (plain.readPlain_eq (plainFrom_line follows below) fresh)

/-- A plain key is read back up to its colon. -/
theorem readScalar_key {fresh : Bool} (ends : endsWord rest = true) :
    readScalar false floor ⟨chars ++ ':' :: rest, column, fresh⟩ =
      .ok (⟨true, String.ofList chars⟩, ⟨':' :: rest, column + chars.length, false⟩) :=
  plain.readScalar_eq (plain.readPlain_eq (plainFrom_colon ends) fresh)

/-- A plain text stands for no mark, before the end of a line or a colon. -/
theorem isToken {mark : Char} (isEnd : mark = '\n' ∨ mark = ':') :
    IsToken (chars ++ mark :: rest) := by
  have line := plain.bare_parts.2.1
  obtain ⟨c, others, rfl, noBlank, unreserved, stays, noMarks⟩ := plain.head
  refine ⟨⟨c, others ++ mark :: rest, rfl, noBlank, line c List.mem_cons_self, ?_⟩, ?_, ?_⟩
  · rintro rfl
    exact absurd unreserved (by decide)
  · refine isMarker_eq_false fun sign isSign after marked => ?_
    have other : mark ≠ sign := by
      simp only [List.mem_cons, List.not_mem_nil, or_false] at isSign
      rcases isEnd with rfl | rfl <;> rcases isSign with rfl | rfl <;> decide
    -- Three signs would take in what follows the text, or stand in the text itself.
    match others with
    | [] =>
        simp only [List.cons_append, List.nil_append, List.cons.injEq] at marked
        exact other marked.2.1
    | [_] =>
        simp only [List.cons_append, List.nil_append, List.cons.injEq] at marked
        exact other marked.2.2.1
    | _ :: _ :: more =>
        simp only [List.cons_append, List.cons.injEq] at marked
        exact noMarks sign isSign more (by rw [marked.1, marked.2.1, marked.2.2.1])
  · intro after isColon
    obtain ⟨rfl, rfl⟩ := List.cons.inj isColon
    exact endsWord_append (stays (.inr (.inl rfl)))

theorem not_atEntry {mark : Char} {fresh : Bool} :
    (⟨chars ++ mark :: rest, column, fresh⟩ : Cursor).atEntry = false := by
  obtain ⟨c, others, rfl, _, _, stays, _⟩ := plain.head
  rw [Cursor.atEntry]
  split
  · next after isDash =>
      obtain ⟨rfl, rfl⟩ := List.cons.inj isDash
      exact endsWord_append (stays (.inr (.inr rfl)))
  · rfl

end IsPlainText

end RouteAtlas.Yaml
