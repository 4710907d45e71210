/-
Module: RouteAtlas.Proofs.YamlTokens
Purpose: How the reader of a document gets from the end of a line to the next token.
Main exports: Yaml.IsToken, Yaml.IsNext, Yaml.IsNext.skip_line, Yaml.IsPrintable,
  Yaml.IsLine
-/
import RouteAtlas.Yaml.Printer
import RouteAtlas.Yaml.Reader

namespace RouteAtlas.Yaml

variable {c : Char} {text rest : List Char} {column : Nat} {next : Cursor}

/-! ## Characters -/

theorem isBlank_of_isPrintable (printable : isPrintable c = true) (blank : isBlank c = true) :
    c = ' ' := by
  simp only [isBlank, Bool.or_eq_true, beq_iff_eq] at blank
  rcases blank with rfl | rfl
  · rfl
  · exact absurd printable (by decide)

theorem ne_of_isBreak (mark : Char) (isMark : isBreak mark = false) (breaks : isBreak c = true) :
    c ≠ mark := by
  rintro rfl
  simp [isMark] at breaks

theorem isPrintable_of_mem {chars : List Char} (plain : needsEscapes chars = false)
    (inside : c ∈ chars) : isPrintable c = true := by
  simp only [needsEscapes, Bool.or_eq_false_iff, List.any_eq_false] at plain
  simpa using plain.1 c inside

/-- A printable character may stand in a document, and is left alone when line ends are made
the same. -/
theorem isAllowed_of_isPrintable (printable : isPrintable c = true) :
    isAllowed c = true ∧ c ≠ '\r' ∧ c.toNat ≠ 0x85 ∧ c ≠ '\ufeff' := by
  refine ⟨?_, ?_, ?_, ?_⟩
  · simp only [isPrintable, Bool.or_eq_true, Bool.and_eq_true, decide_eq_true_eq,
      Bool.not_eq_true', Bool.or_eq_false_iff, beq_iff_eq, beq_eq_false_iff_ne] at printable
    rcases printable with (rfl | ascii) | wide
    · decide
    · simp [isAllowed, ascii]
    · have inRange : c.toNat ≤ 0xFFFD ∨ 0x10000 ≤ c.toNat := by omega
      simp only [isAllowed, Bool.or_eq_true, Bool.and_eq_true, decide_eq_true_eq]
      exact inRange.elim (fun low => .inl (.inr ⟨wide.1, low⟩)) .inr
  · rintro rfl
    exact absurd printable (by decide)
  · intro isNext
    simp only [isPrintable, isNext] at printable
    have line : c ≠ '\n' := by
      rintro rfl
      exact absurd isNext (by decide)
    simp [line] at printable
  · rintro rfl
    exact absurd printable (by decide)

/-- A text of printable characters only. -/
def IsPrintable (text : List Char) : Prop :=
  ∀ c ∈ text, isPrintable c = true

instance : Decidable (IsPrintable text) :=
  List.decidableBAll (isPrintable · = true) text

@[simp]
theorem isPrintable_nil : IsPrintable [] :=
  nofun

@[simp]
theorem isPrintable_cons : IsPrintable (c :: text) ↔ isPrintable c = true ∧ IsPrintable text :=
  List.forall_mem_cons

@[simp]
theorem isPrintable_append {one other : List Char} :
    IsPrintable (one ++ other) ↔ IsPrintable one ∧ IsPrintable other :=
  List.forall_mem_append

@[simp]
theorem isPrintable_spaces (column : Nat) : IsPrintable (spaces column) := by
  intro c inside
  rw [List.eq_of_mem_replicate inside]
  decide

/-- A text of printable characters has the same line ends throughout. -/
theorem normalize_of_isPrintable (printable : IsPrintable text) : normalize text = text := by
  induction text with
  | nil => rfl
  | cons c rest ih =>
      obtain ⟨first, others⟩ := List.forall_mem_cons.mp printable
      obtain ⟨_, noReturn, noNext, _⟩ := isAllowed_of_isPrintable first
      rw [normalize, ih others, if_neg (not_or.mpr ⟨noReturn, noNext⟩)]
      intro _ isReturn
      exact absurd isReturn noReturn

/-! ## Lines -/

/-- A text on one line. -/
def IsLine (text : List Char) : Prop :=
  ∀ c ∈ text, isBreak c = false

instance : Decidable (IsLine text) :=
  List.decidableBAll (isBreak · = false) text

@[simp]
theorem isLine_nil : IsLine [] :=
  nofun

@[simp]
theorem isLine_cons : IsLine (c :: text) ↔ isBreak c = false ∧ IsLine text :=
  List.forall_mem_cons

@[simp]
theorem isLine_append {one other : List Char} :
    IsLine (one ++ other) ↔ IsLine one ∧ IsLine other :=
  List.forall_mem_append

@[simp]
theorem isLine_spaces (column : Nat) : IsLine (spaces column) := by
  intro c inside
  rw [List.eq_of_mem_replicate inside]
  decide

theorem indentLines_break (breaks : isBreak c = true) (fresh : Bool) :
    indentLines column fresh (c :: rest) = c :: indentLines column true rest := by
  rw [indentLines, if_pos breaks]

theorem indentLines_cons (noBreak : isBreak c = false) (fresh : Bool) :
    indentLines column fresh (c :: rest) =
      (if fresh then spaces column else []) ++ c :: indentLines column false rest := by
  rw [indentLines, noBreak]
  rfl

/-- The rest of a line that is begun stays as it is. -/
theorem indentLines_append (line : IsLine text) :
    indentLines column false (text ++ rest) = text ++ indentLines column false rest := by
  induction text with
  | nil => rfl
  | cons c text ih =>
      obtain ⟨noBreak, others⟩ := isLine_cons.mp line
      rw [List.cons_append, indentLines_cons noBreak, ih others]
      rfl

theorem indentLines_of_isLine (line : IsLine text) : indentLines column false text = text := by
  have whole := @indentLines_append text [] column line
  rwa [List.append_nil, indentLines, List.append_nil] at whole

theorem isPrintable_indentLines (column : Nat) (fresh : Bool) {chars : List Char}
    (printable : IsPrintable chars) : IsPrintable (indentLines column fresh chars) := by
  induction chars generalizing fresh with
  | nil => exact isPrintable_nil
  | cons c chars ih =>
      obtain ⟨first, others⟩ := isPrintable_cons.mp printable
      rw [indentLines]
      split
      · exact isPrintable_cons.mpr ⟨first, ih true others⟩
      · cases fresh <;> simp [first, ih false others]

/-! ## Tokens -/

/-- A text that a line can start with behind its indentation: something that shows, and that is
neither the mark of a document's start or end nor that of a value. -/
structure IsToken (text : List Char) : Prop where
  visible : ∃ c rest, text = c :: rest ∧ isBlank c = false ∧ isBreak c = false ∧ c ≠ '#'
  noMarker : isMarker text = false
  noColon : ∀ rest, text = ':' :: rest → endsWord rest = false

/-- What follows a line, and where the reader stands behind it: nothing, or a token behind
spaces. -/
inductive IsNext : List Char → Cursor → Prop where
  | finished : IsNext [] ⟨[], 0, true⟩
  | token (column : Nat) {text : List Char} (starts : IsToken text) :
      IsNext (spaces column ++ text) ⟨text, column, true⟩

/-- Whether a place is to the left of a column, or at the end of the text. -/
def Cursor.IsBelow (floor : Nat) (cursor : Cursor) : Prop :=
  cursor.rest = [] ∨ cursor.column < floor

theorem skipFrom_spaces (flow tabs crossed fresh : Bool) (column count : Nat) (text : List Char) :
    skipFrom flow tabs false crossed fresh column (spaces count ++ text) =
      skipFrom flow tabs false crossed fresh (column + count) text := by
  induction count generalizing column with
  | zero => rfl
  | succ count ih =>
      have same : skipFrom flow tabs false crossed fresh column (spaces (count + 1) ++ text) =
          skipFrom flow tabs false crossed fresh (column + 1) (spaces count ++ text) := rfl
      rw [same, ih, Nat.add_right_comm, Nat.add_assoc]

theorem skipFrom_visible (flow tabs crossed fresh : Bool) (column : Nat) {rest : List Char}
    (noBlank : isBlank c = false) (noBreak : isBreak c = false) (noComment : c ≠ '#') :
    skipFrom flow tabs false crossed fresh column (c :: rest) =
      (⟨c :: rest, column, fresh⟩, crossed) := by
  simp only [isBlank, Bool.or_eq_false_iff] at noBlank
  simp [skipFrom, noBreak, noBlank, noComment]

theorem IsToken.skipFrom (starts : IsToken text) (flow tabs crossed fresh : Bool) (column : Nat) :
    skipFrom flow tabs false crossed fresh column text = (⟨text, column, fresh⟩, crossed) := by
  obtain ⟨c, rest, rfl, noBlank, noBreak, noComment⟩ := starts.visible
  exact skipFrom_visible flow tabs crossed fresh column noBlank noBreak noComment

theorem IsToken.ne_nil (starts : IsToken text) : text ≠ [] := by
  obtain ⟨c, rest, rfl, _⟩ := starts.visible
  exact List.cons_ne_nil c rest

theorem IsToken.not_atEnd (starts : IsToken text) (column : Nat) (fresh : Bool) :
    (⟨text, column, fresh⟩ : Cursor).atEnd = false := by
  simp [Cursor.atEnd, Cursor.atMarker, starts.noMarker, starts.ne_nil]

namespace IsNext

variable {rest : List Char} (follows : IsNext rest next)

include follows

/-- From the start of the line the reader gets to the next token. -/
theorem skipFrom (tabs crossed : Bool) :
    skipFrom false tabs false crossed true 0 rest = (next, crossed) := by
  cases follows with
  | finished => rfl
  | token column starts =>
      rw [skipFrom_spaces, starts.skipFrom, Nat.zero_add]

/-- So it does from the end of the line before. -/
theorem skip_line (column : Nat) (fresh : Bool) :
    (⟨'\n' :: rest, column, fresh⟩ : Cursor).skip false = (next, true) := by
  have isLine : isBreak '\n' = true := by decide
  rw [Cursor.skip, Yaml.skipFrom, if_pos isLine, Bool.not_false, Bool.or_true]
  exact follows.skipFrom false true

/-- At the next token the reader stays. -/
theorem skip : next.skip false = (next, false) := by
  cases follows with
  | finished => rfl
  | token column starts => exact starts.skipFrom false _ false true column

theorem fresh : next.fresh = true := by
  cases follows <;> rfl

theorem not_atColon : next.atColon false = false := by
  cases follows with
  | finished => rfl
  | @token column text starts =>
      rw [Cursor.atColon]
      split
      · next after isColon => exact starts.noColon after isColon
      · rfl

theorem atEnd_iff : next.atEnd = true ↔ next.rest = [] := by
  cases follows with
  | finished => simp [Cursor.atEnd]
  | token column starts => simp [starts.not_atEnd, starts.ne_nil]

end IsNext

end RouteAtlas.Yaml
