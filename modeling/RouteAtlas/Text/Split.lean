/-
Module: RouteAtlas.Text.Split
Purpose: Cutting a text at a separator and putting the pieces back together.
Main exports: Text.pieces, Text.joinWith, Text.breakAt, Text.breakAtLast,
  Text.pieces_eq_iff, Text.splitText_eq_iff
-/

namespace RouteAtlas.Text

/-- The pieces between the occurrences of `sep`; a text without one is a
single piece, the empty text included. -/
def pieces (sep : Char) : List Char → List (List Char)
  | [] => [[]]
  | c :: rest =>
      if c = sep then
        [] :: pieces sep rest
      else
        match pieces sep rest with
        | [] => [[c]]
        | head :: tail => (c :: head) :: tail

/-- The pieces in order with `sep` between neighbours. -/
def joinWith (sep : List Char) : List (List Char) → List Char
  | [] => []
  | [piece] => piece
  | piece :: rest => piece ++ sep ++ joinWith sep rest

/-- The text before and the text after the first `sep`. -/
def breakAt (sep : Char) : List Char → Option (List Char × List Char)
  | [] => none
  | c :: rest =>
      if c = sep then
        some ([], rest)
      else
        (breakAt sep rest).map fun (before, after) => (c :: before, after)

/-- The text before and the text after the last `sep`. -/
def breakAtLast (sep : Char) : List Char → Option (List Char × List Char)
  | [] => none
  | c :: rest =>
      match breakAtLast sep rest with
      | some (before, after) => some (c :: before, after)
      | none => if c = sep then some ([], rest) else none

theorem pieces_ne_nil (sep : Char) (s : List Char) : pieces sep s ≠ [] := by
  cases s with
  | nil => simp [pieces]
  | cons c rest =>
      simp only [pieces]
      split
      · simp
      · split <;> simp

theorem notMem_of_mem_pieces {sep : Char} {s piece : List Char}
    (member : piece ∈ pieces sep s) : sep ∉ piece := by
  induction s generalizing piece with
  | nil =>
      cases List.mem_singleton.mp member
      exact List.not_mem_nil
  | cons c rest ih =>
      rw [pieces] at member
      split at member
      · rcases List.mem_cons.mp member with rfl | member
        · exact List.not_mem_nil
        · exact ih member
      · next other =>
          split at member
          · next cut => exact absurd cut (pieces_ne_nil sep rest)
          · next head tail cut =>
              rw [cut] at ih
              rcases List.mem_cons.mp member with rfl | member
              · intro found
                rcases List.mem_cons.mp found with same | found
                · exact other same.symm
                · exact ih List.mem_cons_self found
              · exact ih (List.mem_cons_of_mem _ member)

/-- What stands before a separator is cut apart from what follows it. -/
theorem pieces_append (sep : Char) (before after : List Char) :
    pieces sep (before ++ sep :: after) = pieces sep before ++ pieces sep after := by
  induction before with
  | nil => simp [pieces]
  | cons c rest ih =>
      rw [List.cons_append, pieces, pieces, ih]
      split
      · rw [List.cons_append]
      · cases cut : pieces sep rest with
        | nil => exact absurd cut (pieces_ne_nil sep rest)
        | cons head tail => rfl

/-- Nothing is lost by cutting: the pieces joined again are the text. -/
theorem joinWith_pieces (sep : Char) (s : List Char) :
    joinWith [sep] (pieces sep s) = s := by
  induction s with
  | nil => rfl
  | cons c rest ih =>
      simp only [pieces]
      cases cut : pieces sep rest with
      | nil => exact absurd cut (pieces_ne_nil sep rest)
      | cons head tail =>
          rw [cut] at ih
          split
          · next same =>
              subst same
              simp [joinWith, ih]
          · cases tail with
            | nil => simpa [joinWith] using ih
            | cons next more => simpa [joinWith] using ih

/-- A text without a separator is a single piece. -/
theorem pieces_of_notMem {sep : Char} {s : List Char} (absent : sep ∉ s) : pieces sep s = [s] := by
  induction s with
  | nil => rfl
  | cons c rest ih =>
      obtain ⟨apart, absentRest⟩ : sep ≠ c ∧ sep ∉ rest := by simpa using absent
      simp [pieces, Ne.symm apart, ih absentRest]

/-- Only the pieces of a text can be joined to it and have no separator in them. -/
theorem pieces_eq_iff {sep : Char} {s : List Char} {parts : List (List Char)} :
    pieces sep s = parts ↔
      parts ≠ [] ∧ joinWith [sep] parts = s ∧ ∀ part ∈ parts, sep ∉ part := by
  constructor
  · rintro rfl
    exact ⟨pieces_ne_nil sep s, joinWith_pieces sep s, fun _ => notMem_of_mem_pieces⟩
  · rintro ⟨some, rfl, absent⟩
    induction parts with
    | nil => exact absurd rfl some
    | cons part parts ih =>
        have absentPart : sep ∉ part := absent part List.mem_cons_self
        cases parts with
        | nil => exact pieces_of_notMem absentPart
        | cons next more =>
            have others := ih (List.cons_ne_nil next more) fun other member =>
              absent other (List.mem_cons_of_mem part member)
            rw [joinWith, List.append_assoc, List.singleton_append, pieces_append,
              pieces_of_notMem absentPart, others, List.singleton_append]
            exact List.cons_ne_nil next more

/-- There is one piece more than there are separators. -/
theorem length_pieces (sep : Char) (s : List Char) :
    (pieces sep s).length = s.count sep + 1 := by
  induction s with
  | nil => rfl
  | cons c rest ih =>
      rw [pieces, List.count_cons]
      split
      · next same => simp [same, ih]
      · next other =>
          cases cut : pieces sep rest with
          | nil => exact absurd cut (pieces_ne_nil sep rest)
          | cons head tail => simpa [cut, other] using ih

/-- A text is cut at the first separator. -/
theorem breakAt_append {sep : Char} {before : List Char} (absent : sep ∉ before)
    (after : List Char) : breakAt sep (before ++ sep :: after) = some (before, after) := by
  induction before with
  | nil => simp [breakAt]
  | cons c rest ih =>
      obtain ⟨apart, absentRest⟩ : sep ≠ c ∧ sep ∉ rest := by simpa using absent
      simp [breakAt, Ne.symm apart, ih absentRest]

theorem breakAtLast_of_notMem {sep : Char} {s : List Char} (absent : sep ∉ s) :
    breakAtLast sep s = none := by
  induction s with
  | nil => rfl
  | cons c rest ih =>
      obtain ⟨apart, absentRest⟩ : sep ≠ c ∧ sep ∉ rest := by simpa using absent
      simp [breakAtLast, ih absentRest, Ne.symm apart]

/-- A text is cut at the last separator. -/
theorem breakAtLast_append {sep : Char} {after : List Char} (absent : sep ∉ after)
    (before : List Char) : breakAtLast sep (before ++ sep :: after) = some (before, after) := by
  induction before with
  | nil => simp [breakAtLast, breakAtLast_of_notMem absent]
  | cons c rest ih => simp [breakAtLast, ih]

/-- Every text with a separator has a last one. -/
theorem exists_of_mem {sep : Char} {s : List Char} (member : sep ∈ s) :
    ∃ before after, s = before ++ sep :: after ∧ sep ∉ after := by
  obtain ⟨after, before, backwards, absent⟩ :=
    List.eq_append_cons_of_mem (List.mem_reverse.mpr member)
  have forwards := congrArg List.reverse backwards
  refine ⟨before.reverse, after.reverse, ?_, by simpa using absent⟩
  simpa using forwards

/-- The same on texts of type `String`. -/
def splitText (sep : Char) (s : String) : List String :=
  (pieces sep s.toList).map String.ofList

theorem splitText_append (sep : Char) (before after : String) :
    splitText sep (before ++ String.singleton sep ++ after) =
      splitText sep before ++ splitText sep after := by
  simp [splitText, pieces_append]

/-- Texts in order with `sep` between neighbours. -/
def joinTexts (sep : String) (parts : List String) : String :=
  String.ofList (joinWith sep.toList (parts.map String.toList))

theorem splitText_eq_iff {sep : Char} {s : String} {parts : List String} :
    splitText sep s = parts ↔
      parts ≠ [] ∧ joinTexts (String.singleton sep) parts = s ∧
        ∀ part ∈ parts, sep ∉ part.toList := by
  have chars : splitText sep s = parts ↔ pieces sep s.toList = parts.map String.toList := by
    constructor
    · rintro rfl
      simp [splitText]
    · intro cut
      simp [splitText, cut]
  have joined : joinTexts (String.singleton sep) parts = s ↔
      joinWith [sep] (parts.map String.toList) = s.toList := by
    rw [joinTexts, ← String.toList_inj, String.toList_ofList, String.toList_singleton]
  rw [chars, joined, pieces_eq_iff]
  simp

theorem length_splitText (sep : Char) (s : String) :
    (splitText sep s).length = s.toList.count sep + 1 := by
  rw [splitText, List.length_map, length_pieces]

/-- The part of a text before its first `sep`. -/
def beforeFirst? (sep : Char) (s : String) : Option String :=
  (breakAt sep s.toList).map fun (before, _) => String.ofList before

theorem beforeFirst?_append {sep : Char} {before : String} (absent : sep ∉ before.toList)
    (after : String) :
    beforeFirst? sep (before ++ String.singleton sep ++ after) = some before := by
  simp [beforeFirst?, breakAt_append absent]

end RouteAtlas.Text
