/-
Module: RouteAtlas.Proofs.JsonRoundTrip
Purpose: Reading either printed form of a JSON value gives back the value.
Main exports: Json.ReadsAs, Json.IsPortable, Json.IsVerbal, Json.readsAs_prettyText,
  Json.readsAs_compactText, Json.read_pretty, Json.read_compact
-/
import RouteAtlas.Proofs.JsonTokens

namespace RouteAtlas.Json

/-!
## Texts and what they are read as

`ReadsAs` relates a text to the value that it is read as wherever it stands, so
that the texts of larger values are put together from those of smaller ones.
The reader counts its steps down; twice the length of a text is always enough,
since each character is looked at by at most two of them.
-/

/-- Whether every character is a blank. -/
def IsBlank (s : List Char) : Prop :=
  ∀ c ∈ s, c ∈ [' ', '\n', '\t', '\r']

/-- Whether a text starts with a character that a value may start with: neither
a blank nor the bracket that closes an array. -/
def IsOpened : List Char → Prop
  | [] => False
  | c :: _ => c ∉ [' ', '\n', '\t', '\r', ']']

/-- A text that is read as a value, whatever follows it. -/
structure ReadsAs (text : List Char) (value : Reading) : Prop where
  opened : IsOpened text
  reads : ∀ (fuel : Nat) (rest : List Char), 2 * text.length ≤ fuel →
    IsDelimited rest → readValue fuel (text ++ rest) = (value, rest)

/-- A text that is read as the items which follow an item. -/
structure ReadsMoreItems (text : List Char) (items : Items) : Prop where
  nonempty : text ≠ []
  delimited : IsDelimited text
  reads : ∀ (fuel : Nat) (rest : List Char), 2 * text.length ≤ fuel →
    readMoreItems fuel (text ++ rest) = (items, rest)

/-- A text that is read as the members which follow a member. -/
structure ReadsMoreMembers (text : List Char) (members : Members) : Prop where
  nonempty : text ≠ []
  delimited : IsDelimited text
  reads : ∀ (fuel : Nat) (rest : List Char), 2 * text.length ≤ fuel →
    readMoreMembers fuel (text ++ rest) = (members, rest)

/-! ### Blanks -/

theorem skipBlanks_blank {blank : List Char} (all : IsBlank blank) (rest : List Char) :
    skipBlanks (blank ++ rest) = skipBlanks rest := by
  induction blank with
  | nil => rfl
  | cons c blank ih =>
      have first : c ∈ [' ', '\n', '\t', '\r'] := all c (by simp)
      have others : IsBlank blank := fun d inside => all d (by simp [inside])
      have same : skipBlanks (c :: (blank ++ rest)) = skipBlanks (blank ++ rest) := by
        simp only [List.mem_cons, List.not_mem_nil, or_false] at first
        rcases first with rfl | rfl | rfl | rfl <;> rfl
      rw [List.cons_append, same, ih others]

theorem skipBlanks_cons {c : Char} (visible : c ∉ [' ', '\n', '\t', '\r'])
    (rest : List Char) : skipBlanks (c :: rest) = c :: rest := by
  simp only [List.mem_cons, List.not_mem_nil, or_false, not_or] at visible
  simp [skipBlanks, visible]

theorem isBlank_nil : IsBlank [] := by
  simp [IsBlank]

theorem isBlank_space : IsBlank [' '] := by
  simp [IsBlank]

theorem isBlank_newLine (level : Nat) : IsBlank (newLine level) := by
  intro c inside
  rcases List.mem_cons.mp inside with rfl | space
  · simp
  · rw [List.eq_of_mem_replicate space]
    simp

/-- A text that opens a value starts with a character that is neither a blank
nor a closing bracket. -/
theorem IsOpened.head {text : List Char} (opened : IsOpened text) :
    ∃ c rest, text = c :: rest ∧ c ≠ ']' ∧ c ∉ [' ', '\n', '\t', '\r'] := by
  cases text with
  | nil => exact opened.elim
  | cons c rest =>
      simp only [IsOpened, List.mem_cons, List.not_mem_nil, or_false, not_or] at opened
      refine ⟨c, rest, rfl, opened.2.2.2.2, ?_⟩
      simp [opened]

/-- Blanks before a value are passed over. -/
theorem readValue_blank {blank : List Char} (all : IsBlank blank) (fuel : Nat)
    (rest : List Char) : readValue fuel (blank ++ rest) = readValue fuel rest := by
  cases fuel with
  | zero => rfl
  | succ fuel => rw [readValue, readValue, skipBlanks_blank all]

/-- The first character of a text takes one step, and what is left is enough
for two steps for each of the others. -/
theorem fuel_cons {c : Char} {text : List Char} {fuel : Nat}
    (enough : 2 * (c :: text).length ≤ fuel) :
    ∃ left, fuel = left + 1 ∧ 2 * text.length < left := by
  rw [List.length_cons] at enough
  exact ⟨fuel - 1, by omega, by omega⟩

/-! ### Scalars -/

theorem readsAs_null : ReadsAs (scalarText .null) .null where
  opened := by simp [IsOpened, scalarText]
  reads := by
    intro fuel rest enough _
    obtain ⟨left, rfl, _⟩ := fuel_cons enough
    have read := readLiteral_self .null ['u', 'l', 'l'] rest
    simpa [readValue, scalarText, skipBlanks] using read

theorem readsAs_bool (value : Bool) :
    ReadsAs (scalarText (.bool value)) (.bool value) where
  opened := by cases value <;> simp [IsOpened, scalarText]
  reads := by
    intro fuel rest enough _
    cases value with
    | false =>
        obtain ⟨left, rfl, _⟩ := fuel_cons enough
        have read := readLiteral_self (.bool false) ['a', 'l', 's', 'e'] rest
        simpa [readValue, scalarText, skipBlanks] using read
    | true =>
        obtain ⟨left, rfl, _⟩ := fuel_cons enough
        have read := readLiteral_self (.bool true) ['r', 'u', 'e'] rest
        simpa [readValue, scalarText, skipBlanks] using read

theorem readsAs_literal (text : String) : ReadsAs (literal text) (.string text) where
  opened := by simp [IsOpened, literal]
  reads := by
    intro fuel rest enough _
    obtain ⟨left, rfl, _⟩ := fuel_cons enough
    have shape : literal text ++ rest =
        '"' :: (text.toList.flatMap escapeChar ++ '"' :: rest) := by
      simp [literal]
    rw [shape, readValue, skipBlanks_cons (by decide)]
    simp [scanString_literal]

/-- An integer that 64 bits hold, with or without a sign. -/
def FitsWord (value : Int) : Prop :=
  -Int.ofNat (Nat.pow 2 63) ≤ value ∧ value < Int.ofNat (Nat.pow 2 64)

/-- What a value starts with when it starts with a digit. -/
theorem readValue_digit {c : Char} (digit : isDigit c = true) (left : Nat)
    (rest : List Char) :
    readValue (left + 1) (c :: rest) = readNumber false (c :: rest) := by
  have visible : c ∉ [' ', '\n', '\t', '\r'] := by
    rintro inside
    simp only [List.mem_cons, List.not_mem_nil, or_false] at inside
    rcases inside with rfl | rfl | rfl | rfl <;> simp [isDigit] at digit
  rw [readValue, skipBlanks_cons visible]
  have other : ∀ d, isDigit d = false → c ≠ d := by
    rintro d plain rfl
    rw [plain] at digit
    cases digit
  simp [other '"' (by decide), other '[' (by decide), other '\x7b' (by decide),
    other 'n' (by decide), other 't' (by decide), other 'f' (by decide),
    other '-' (by decide), digit]

theorem readsAs_natural {n : Nat} (fits : n < Nat.pow 2 64) :
    ReadsAs (Nat.toDigits 10 n) (.number (.integer n)) := by
  obtain ⟨c, digits, shape⟩ := List.exists_cons_of_ne_nil (@Nat.toDigits_ne_nil n 10)
  have digit : isDigit c = true := isDigit_toDigits n c (by simp [shape])
  refine ⟨?_, ?_⟩
  · rw [shape]
    intro inside
    simp only [List.mem_cons, List.not_mem_nil, or_false] at inside
    rcases inside with rfl | rfl | rfl | rfl | rfl <;> simp [isDigit] at digit
  · intro fuel rest enough delimited
    rw [shape] at enough
    obtain ⟨left, rfl, _⟩ := fuel_cons enough
    have number := readNumber_digits false n delimited
    rw [shape, List.cons_append] at number ⊢
    rw [readValue_digit digit, number, ← shape, readNumeral, Numeral.value_natural fits]

theorem readsAs_negative {n : Nat} (positive : 0 < n) (fits : n ≤ Nat.pow 2 63) :
    ReadsAs ('-' :: Nat.toDigits 10 n) (.number (.integer (-n))) where
  opened := by simp [IsOpened]
  reads := by
    intro fuel rest enough delimited
    obtain ⟨left, rfl, _⟩ := fuel_cons enough
    rw [List.cons_append, readValue, skipBlanks_cons (by decide)]
    have number := readNumber_digits true n delimited
    rw [readNumeral, Numeral.value_negative positive fits] at number
    simp [number]

theorem readsAs_int {value : Int} (fits : FitsWord value) :
    ReadsAs (scalarText (.int value)) (.number (.integer value)) := by
  obtain ⟨low, high⟩ := fits
  cases value with
  | ofNat n =>
      have text : scalarText (.int (.ofNat n)) = Nat.toDigits 10 n :=
        Nat.toList_repr
      rw [text]
      exact readsAs_natural (Int.ofNat_lt.mp high)
  | negSucc n =>
      have text : scalarText (.int (.negSucc n)) = '-' :: Nat.toDigits 10 (n + 1) := by
        change ("-" ++ (n + 1).repr).toList = _
        simp
      have small : n + 1 ≤ Nat.pow 2 63 := Int.ofNat_le.mp (Int.le_of_neg_le_neg low)
      have negative := readsAs_negative (Nat.succ_pos n) small
      rw [text]
      simpa [Int.negSucc_eq] using negative

/-! ### Arrays -/

theorem isDelimited_blank {blank rest : List Char} (all : IsBlank blank)
    (delimited : IsDelimited rest) : IsDelimited (blank ++ rest) := by
  cases blank with
  | nil => exact delimited
  | cons c blank =>
      have first := all c (by simp)
      simp only [List.mem_cons, List.not_mem_nil, or_false] at first
      rcases first with rfl | rfl | rfl | rfl <;> simp [IsDelimited]

theorem readsMoreItems_close {blank : List Char} (all : IsBlank blank)  :
    ReadsMoreItems (blank ++ [']']) .close where
  nonempty := by simp
  delimited := isDelimited_blank all (by simp [IsDelimited])
  reads := by
    intro fuel rest enough
    simp only [List.length_append, List.length_singleton] at enough
    obtain ⟨left, rfl⟩ : ∃ left, fuel = left + 1 := ⟨fuel - 1, by omega⟩
    rw [readMoreItems, List.append_assoc, skipBlanks_blank all, List.singleton_append,
      skipBlanks_cons (by decide)]
    rfl

theorem ReadsMoreItems.item {blank text more : List Char} {head : Reading}
    {tail : Items} (all : IsBlank blank) (first : ReadsAs text head)
    (others : ReadsMoreItems more tail) :
    ReadsMoreItems (',' :: (blank ++ (text ++ more))) (.item head tail) where
  nonempty := by simp
  delimited := by simp [IsDelimited]
  reads := by
    intro fuel rest enough
    obtain ⟨left, rfl, ample⟩ := fuel_cons enough
    simp only [List.length_append] at ample
    have value := first.reads left (more ++ rest) (by omega)
      (isDelimited_append others.delimited others.nonempty rest)
    have items := others.reads left rest (by omega)
    rw [List.cons_append, readMoreItems, skipBlanks_cons (by decide)]
    simp [readValue_blank all, value, items]

theorem ReadsMoreItems.blank {blank text : List Char} {items : Items}
    (reads : ReadsMoreItems text items) (all : IsBlank blank) :
    ReadsMoreItems (blank ++ text) items where
  nonempty := by simp [reads.nonempty]
  delimited := isDelimited_blank all reads.delimited
  reads := by
    intro fuel rest enough
    rw [List.length_append] at enough
    have read := reads.reads fuel rest (by omega)
    cases fuel with
    | zero => exact absurd (List.length_eq_zero_iff.mp (by omega)) reads.nonempty
    | succ fuel =>
        rw [readMoreItems] at read ⊢
        rw [List.append_assoc, skipBlanks_blank all]
        exact read

theorem readItems_close {blank : List Char} (all : IsBlank blank) {fuel : Nat}
    (enough : 0 < fuel) (rest : List Char) :
    readItems fuel (blank ++ ']' :: rest) = (.close, rest) := by
  obtain ⟨left, rfl⟩ := Nat.exists_eq_succ_of_ne_zero (by omega : fuel ≠ 0)
  rw [readItems, skipBlanks_blank all, skipBlanks_cons (by decide)]
  rfl

theorem readItems_item {blank text more : List Char} {head : Reading}
    {tail : Items} (all : IsBlank blank) (first : ReadsAs text head)
    (others : ReadsMoreItems more tail) {fuel : Nat}
    (enough : 2 * (blank ++ (text ++ more)).length < fuel) (rest : List Char) :
    readItems fuel (blank ++ (text ++ (more ++ rest))) = (.item head tail, rest) := by
  obtain ⟨left, rfl⟩ := Nat.exists_eq_succ_of_ne_zero (by omega : fuel ≠ 0)
  simp only [List.length_append] at enough
  have value := first.reads left (more ++ rest) (by omega)
    (isDelimited_append others.delimited others.nonempty rest)
  have items := others.reads left rest (by omega)
  obtain ⟨c, letters, rfl, notClose, visible⟩ := first.opened.head
  rw [readItems, skipBlanks_blank all, List.cons_append, skipBlanks_cons visible]
  rw [List.cons_append] at value
  simp [notClose, value, items]

/-- An array is read from its bracket on. -/
theorem readsAs_array {text : List Char} {items : Items}
    (inside : ∀ fuel rest, 2 * text.length < fuel →
      readItems fuel (text ++ rest) = (items, rest)) :
    ReadsAs ('[' :: text) (.array items) where
  opened := by simp [IsOpened]
  reads := by
    intro fuel rest enough _
    obtain ⟨left, rfl, ample⟩ := fuel_cons enough
    rw [List.cons_append, readValue, skipBlanks_cons (by decide)]
    simp [inside left rest ample]

/-! ### Objects -/

theorem readsMoreMembers_close {blank : List Char} (all : IsBlank blank) :
    ReadsMoreMembers (blank ++ ['\x7d']) .close where
  nonempty := by simp
  delimited := isDelimited_blank all (by simp [IsDelimited])
  reads := by
    intro fuel rest enough
    simp only [List.length_append, List.length_singleton] at enough
    obtain ⟨left, rfl⟩ : ∃ left, fuel = left + 1 := ⟨fuel - 1, by omega⟩
    rw [readMoreMembers, List.append_assoc, skipBlanks_blank all, List.singleton_append,
      skipBlanks_cons (by decide)]
    rfl

theorem ReadsMoreMembers.blank {blank text : List Char} {members : Members}
    (reads : ReadsMoreMembers text members) (all : IsBlank blank) :
    ReadsMoreMembers (blank ++ text) members where
  nonempty := by simp [reads.nonempty]
  delimited := isDelimited_blank all reads.delimited
  reads := by
    intro fuel rest enough
    rw [List.length_append] at enough
    have read := reads.reads fuel rest (by omega)
    cases fuel with
    | zero => exact absurd (List.length_eq_zero_iff.mp (by omega)) reads.nonempty
    | succ fuel =>
        rw [readMoreMembers] at read ⊢
        rw [List.append_assoc, skipBlanks_blank all]
        exact read

/-- A text that is read, after the opening quote of a name, as a member and the members which
follow it. -/
def ReadsMember (text : List Char) (members : Members) : Prop :=
  ∀ (fuel : Nat) (rest : List Char), 2 * text.length ≤ fuel →
    readMember fuel (text ++ rest) = (members, rest)

/-- The rest of a name, a colon, a value and what follows it, with blanks around the colon. -/
theorem readsMember_named {name before blank text more : List Char} {key : Key}
    {value : Reading} {tail : Members} (named : ∀ rest, readKey (name ++ '"' :: rest) = (key, rest))
    (allBefore : IsBlank before) (all : IsBlank blank) (first : ReadsAs text value)
    (others : ReadsMoreMembers more tail) :
    ReadsMember (name ++ '"' :: (before ++ ':' :: (blank ++ (text ++ more))))
      (.member key value tail) := by
  intro fuel rest enough
  simp only [List.length_append, List.length_cons] at enough
  obtain ⟨left, rfl⟩ := Nat.exists_eq_succ_of_ne_zero (by omega : fuel ≠ 0)
  have read := first.reads left (more ++ rest) (by omega)
    (isDelimited_append others.delimited others.nonempty rest)
  have members := others.reads left rest (by omega)
  have shape : name ++ '"' :: (before ++ ':' :: (blank ++ (text ++ more))) ++ rest =
      name ++ '"' :: (before ++ ':' :: (blank ++ (text ++ (more ++ rest)))) := by
    simp
  rw [shape, readMember, named]
  simp [skipBlanks_blank allBefore, skipBlanks_cons, readValue_blank all, read, members]

/-- A member after a comma. -/
theorem ReadsMember.more {before text : List Char} {members : Members}
    (reads : ReadsMember text members) (allBefore : IsBlank before) :
    ReadsMoreMembers (',' :: (before ++ '"' :: text)) members where
  nonempty := by simp
  delimited := by simp [IsDelimited]
  reads := by
    intro fuel rest enough
    obtain ⟨left, rfl, ample⟩ := fuel_cons enough
    rw [List.length_append, List.length_cons] at ample
    have member := reads left rest (by omega)
    rw [List.cons_append, readMoreMembers, skipBlanks_cons (by decide)]
    simp [skipBlanks_blank allBefore, skipBlanks_cons, member]

/-- A member after the opening brace. -/
theorem ReadsMember.first {before text : List Char} {members : Members}
    (reads : ReadsMember text members) (allBefore : IsBlank before) {fuel : Nat}
    (enough : 2 * (before ++ '"' :: text).length < fuel) (rest : List Char) :
    readMembers fuel (before ++ '"' :: (text ++ rest)) = (members, rest) := by
  obtain ⟨left, rfl⟩ := Nat.exists_eq_succ_of_ne_zero (by omega : fuel ≠ 0)
  rw [List.length_append, List.length_cons] at enough
  have member := reads left rest (by omega)
  rw [readMembers, skipBlanks_blank allBefore, skipBlanks_cons (by decide)]
  simp [member]

/-- What follows the opening quote of a member: the rest of its name, a colon
and its value. -/
def memberBody (key : String) (blank text : List Char) : List Char :=
  key.toList.flatMap escapeChar ++ '"' :: ':' :: (blank ++ text)

theorem readsMember_body {blank text more : List Char} {value : Reading}
    {tail : Members} (key : String) (all : IsBlank blank) (first : ReadsAs text value)
    (others : ReadsMoreMembers more tail) :
    ReadsMember (memberBody key blank text ++ more) (.member (.name key) value tail) := by
  have member := readsMember_named (readKey_literal key) isBlank_nil all first others
  simpa [memberBody] using member

theorem ReadsMoreMembers.member {before blank text more : List Char}
    {value : Reading} {tail : Members} (key : String) (allBefore : IsBlank before)
    (all : IsBlank blank) (first : ReadsAs text value)
    (others : ReadsMoreMembers more tail) :
    ReadsMoreMembers
      (',' :: (before ++ '"' :: (memberBody key blank text ++ more)))
      (.member (.name key) value tail) :=
  (readsMember_body key all first others).more allBefore

theorem readMembers_close {blank : List Char} (all : IsBlank blank) {fuel : Nat}
    (enough : 0 < fuel) (rest : List Char) :
    readMembers fuel (blank ++ '\x7d' :: rest) = (.close, rest) := by
  obtain ⟨left, rfl⟩ := Nat.exists_eq_succ_of_ne_zero (by omega : fuel ≠ 0)
  rw [readMembers, skipBlanks_blank all, skipBlanks_cons (by decide)]
  rfl

theorem readMembers_member {before blank text more : List Char}
    {value : Reading} {tail : Members} (key : String) (allBefore : IsBlank before)
    (all : IsBlank blank) (first : ReadsAs text value)
    (others : ReadsMoreMembers more tail) {fuel : Nat}
    (enough :
      2 * (before ++ '"' :: (memberBody key blank text ++ more)).length < fuel)
    (rest : List Char) :
    readMembers fuel
        (before ++ '"' :: (memberBody key blank text ++ (more ++ rest))) =
      (.member (.name key) value tail, rest) := by
  rw [← List.append_assoc (memberBody key blank text)]
  exact (readsMember_body key all first others).first allBefore enough rest

/-- An object is read from its brace on. -/
theorem readsAs_object {text : List Char} {members : Members}
    (inside : ∀ fuel rest, 2 * text.length < fuel →
      readMembers fuel (text ++ rest) = (members, rest)) :
    ReadsAs ('\x7b' :: text) (.object members) where
  opened := by simp [IsOpened]
  reads := by
    intro fuel rest enough _
    obtain ⟨left, rfl, ample⟩ := fuel_cons enough
    rw [List.cons_append, readValue, skipBlanks_cons (by decide)]
    simp [inside left rest ample]

/-! ## Printed values -/

mutual

/-- Whether every integer in a value fits 64 bits.  Larger ones are read as
approximate real numbers. -/
def IsPortable : Json → Prop
  | .int value => FitsWord value
  | .array items => ItemsPortable items
  | .object members => MembersPortable members
  | _ => True

/-- Whether every item of an array is portable. -/
def ItemsPortable : List Json → Prop
  | [] => True
  | item :: rest => IsPortable item ∧ ItemsPortable rest

/-- Whether every member of an object is portable. -/
def MembersPortable : List (String × Json) → Prop
  | [] => True
  | (_, value) :: rest => IsPortable value ∧ MembersPortable rest

end

theorem itemsPortable_iff {items : List Json} :
    ItemsPortable items ↔ ∀ item ∈ items, IsPortable item := by
  induction items with
  | nil => simp [ItemsPortable]
  | cons item items ih => simp [ItemsPortable, ih]

theorem membersPortable_iff {members : List (String × Json)} :
    MembersPortable members ↔ ∀ member ∈ members, IsPortable member.2 := by
  induction members with
  | nil => simp [MembersPortable]
  | cons member members ih => simp [MembersPortable, ih]

/-- Whether a value is made of texts, flags, arrays and objects alone. -/
inductive IsVerbal : Json → Prop where
  | string (text : String) : IsVerbal (.string text)
  | bool (value : Bool) : IsVerbal (.bool value)
  | array {items : List Json} (each : ∀ item ∈ items, IsVerbal item) : IsVerbal (.array items)
  | object {members : List (String × Json)} (each : ∀ member ∈ members, IsVerbal member.2) :
      IsVerbal (.object members)

theorem IsVerbal.portable {value : Json} (verbal : IsVerbal value) : IsPortable value := by
  induction verbal with
  | string _ | bool _ => trivial
  | array _ ih => exact itemsPortable_iff.mpr ih
  | object _ ih => exact membersPortable_iff.mpr ih

theorem IsVerbal.ne_null {value : Json} (verbal : IsVerbal value) : value ≠ .null := by
  rintro rfl
  cases verbal

/-- What follows an item of an array, up to and including its end. -/
def afterItem (level : Nat) (closing : List Char) : List Json → List Char
  | [] => closing
  | item :: rest => ',' :: (prettyItems level (item :: rest) ++ closing)

/-- What follows a member of an object, up to and including its end. -/
def afterMember (level : Nat) (closing : List Char) :
    List (String × Json) → List Char
  | [] => closing
  | member :: rest => ',' :: (prettyMembers level (member :: rest) ++ closing)

theorem prettyItems_cons (level : Nat) (closing : List Char) (item : Json)
    (rest : List Json) :
    prettyItems level (item :: rest) ++ closing =
      newLine level ++ (prettyText level item ++ afterItem level closing rest) := by
  cases rest <;> simp [prettyItems, afterItem]

theorem prettyMembers_cons (level : Nat) (closing : List Char) (key : String)
    (value : Json) (rest : List (String × Json)) :
    prettyMembers level ((key, value) :: rest) ++ closing =
      newLine level ++ '"' ::
        (memberBody key [' '] (prettyText level value) ++
          afterMember level closing rest) := by
  cases rest <;> simp [prettyMembers, afterMember, literal, memberBody]

mutual

/-- The indented text of a value is read as the value. -/
theorem readsAs_prettyText : ∀ (level : Nat) (value : Json), IsPortable value →
    ReadsAs (prettyText level value) (Reading.ofJson value)
  | _, .null, _ => readsAs_null
  | _, .bool value, _ => readsAs_bool value
  | _, .int _, portable => readsAs_int portable
  | _, .string text, _ => readsAs_literal text
  | _, .array [], _ => by
      have inside : ∀ fuel rest, 2 * [']'].length < fuel →
          readItems fuel ([']'] ++ rest) = (.close, rest) := by
        intro fuel rest enough
        exact readItems_close isBlank_nil (by omega) rest
      exact readsAs_array inside
  | level, .array (item :: rest), portable => by
      have first := readsAs_prettyText (level + 1) item portable.1
      have others := readsMore_afterItem (level + 1) level rest portable.2
      have shape : prettyText level (.array (item :: rest)) =
          '[' :: (prettyItems (level + 1) (item :: rest) ++ (newLine level ++ [']'])) := by
        simp [prettyText]
      rw [shape, prettyItems_cons]
      refine readsAs_array ?_
      intro fuel after enough
      have items := readItems_item (isBlank_newLine (level + 1)) first others enough after
      simpa [Items.ofList] using items
  | _, .object [], _ => by
      have inside : ∀ fuel rest, 2 * ['\x7d'].length < fuel →
          readMembers fuel (['\x7d'] ++ rest) = (.close, rest) := by
        intro fuel rest enough
        exact readMembers_close isBlank_nil (by omega) rest
      exact readsAs_object inside
  | level, .object ((key, value) :: rest), portable => by
      have first := readsAs_prettyText (level + 1) value portable.1
      have others := readsMore_afterMember (level + 1) level rest portable.2
      have shape : prettyText level (.object ((key, value) :: rest)) =
          '\x7b' :: (prettyMembers (level + 1) ((key, value) :: rest) ++
            (newLine level ++ ['\x7d'])) := by
        simp [prettyText]
      rw [shape, prettyMembers_cons]
      refine readsAs_object ?_
      intro fuel after enough
      have members := readMembers_member key (isBlank_newLine (level + 1))
        isBlank_space first others enough after
      simpa [Members.ofList] using members

/-- What is printed after an item is read as the items that follow it. -/
theorem readsMore_afterItem : ∀ (level outer : Nat) (items : List Json),
    ItemsPortable items →
    ReadsMoreItems (afterItem level (newLine outer ++ [']']) items)
      (Items.ofList items)
  | _, outer, [], _ => readsMoreItems_close (isBlank_newLine outer)
  | level, outer, item :: rest, portable => by
      have first := readsAs_prettyText level item portable.1
      have others := readsMore_afterItem level outer rest portable.2
      rw [afterItem, prettyItems_cons]
      exact .item (isBlank_newLine level) first others

/-- What is printed after a member is read as the members that follow it. -/
theorem readsMore_afterMember :
    ∀ (level outer : Nat) (members : List (String × Json)),
    MembersPortable members →
    ReadsMoreMembers (afterMember level (newLine outer ++ ['\x7d']) members)
      (Members.ofList members)
  | _, outer, [], _ => readsMoreMembers_close (isBlank_newLine outer)
  | level, outer, (key, value) :: rest, portable => by
      have first := readsAs_prettyText level value portable.1
      have others := readsMore_afterMember level outer rest portable.2
      rw [afterMember, prettyMembers_cons]
      exact .member key (isBlank_newLine level) isBlank_space first others

end

/-! ### Texts without blanks -/

/-- What follows an item of an array without blanks, up to and including its end. -/
def afterCompactItem : List Json → List Char
  | [] => [']']
  | item :: rest => ',' :: (compactItems (item :: rest) ++ [']'])

/-- What follows a member of an object without blanks, up to and including its end. -/
def afterCompactMember : List (String × Json) → List Char
  | [] => ['\x7d']
  | member :: rest => ',' :: (compactMembers (member :: rest) ++ ['\x7d'])

theorem compactItems_cons (item : Json) (rest : List Json) :
    compactItems (item :: rest) ++ [']'] = compactText item ++ afterCompactItem rest := by
  cases rest <;> simp [compactItems, afterCompactItem]

theorem compactMembers_cons (key : String) (value : Json) (rest : List (String × Json)) :
    compactMembers ((key, value) :: rest) ++ ['\x7d'] =
      '"' :: (memberBody key [] (compactText value) ++ afterCompactMember rest) := by
  cases rest <;> simp [compactMembers, afterCompactMember, literal, memberBody]

mutual

/-- The text of a value without blanks is read as the value. -/
theorem readsAs_compactText : ∀ value : Json, IsPortable value →
    ReadsAs (compactText value) (Reading.ofJson value)
  | .null, _ => readsAs_null
  | .bool value, _ => readsAs_bool value
  | .int _, portable => readsAs_int portable
  | .string text, _ => readsAs_literal text
  | .array [], _ => by
      refine readsAs_array ?_
      intro fuel rest enough
      exact readItems_close isBlank_nil (by omega) rest
  | .array (item :: rest), portable => by
      have first := readsAs_compactText item portable.1
      have others := readsMore_afterCompactItem rest portable.2
      rw [compactText, List.cons_append, compactItems_cons]
      refine readsAs_array ?_
      intro fuel after enough
      have items := readItems_item isBlank_nil first others enough after
      simpa [Items.ofList] using items
  | .object [], _ => by
      refine readsAs_object ?_
      intro fuel rest enough
      exact readMembers_close isBlank_nil (by omega) rest
  | .object ((key, value) :: rest), portable => by
      have first := readsAs_compactText value portable.1
      have others := readsMore_afterCompactMember rest portable.2
      rw [compactText, List.cons_append, compactMembers_cons]
      refine readsAs_object ?_
      intro fuel after enough
      have members := readMembers_member key isBlank_nil isBlank_nil first others enough after
      simpa [Members.ofList] using members

/-- What stands after an item is read as the items that follow it. -/
theorem readsMore_afterCompactItem : ∀ items : List Json, ItemsPortable items →
    ReadsMoreItems (afterCompactItem items) (Items.ofList items)
  | [], _ => readsMoreItems_close isBlank_nil
  | item :: rest, portable => by
      have first := readsAs_compactText item portable.1
      have others := readsMore_afterCompactItem rest portable.2
      rw [afterCompactItem, compactItems_cons]
      exact .item isBlank_nil first others

/-- What stands after a member is read as the members that follow it. -/
theorem readsMore_afterCompactMember : ∀ members : List (String × Json),
    MembersPortable members →
    ReadsMoreMembers (afterCompactMember members) (Members.ofList members)
  | [], _ => readsMoreMembers_close isBlank_nil
  | (key, value) :: rest, portable => by
      have first := readsAs_compactText value portable.1
      have others := readsMore_afterCompactMember rest portable.2
      rw [afterCompactMember, compactMembers_cons]
      exact .member key isBlank_nil isBlank_nil first others

end

/-! ### Whole texts -/

/-- A text with nothing but blanks before and after its value is read as that value alone. -/
theorem ReadsAs.read_between {before text blank : List Char} {value : Reading}
    (reads : ReadsAs text value) (allBefore : IsBlank before) (all : IsBlank blank) :
    read (String.ofList (before ++ (text ++ blank))) = ⟨value, false⟩ := by
  have ended : IsDelimited [] := trivial
  have delimited := isDelimited_blank all ended
  rw [List.append_nil] at delimited
  have enough : 2 * text.length ≤ 2 * (before ++ (text ++ blank)).length + 2 := by
    rw [List.length_append, List.length_append]
    omega
  have whole := reads.reads _ blank enough delimited
  have after : skipBlanks blank = [] := by
    simpa [skipBlanks] using skipBlanks_blank all []
  simp only [Json.read, String.toList_ofList, readValue_blank allBefore, whole, after]
  rfl

/-- A text with nothing but blanks after its value is read as that value alone. -/
theorem ReadsAs.read_append {text blank : List Char} {value : Reading}
    (reads : ReadsAs text value) (all : IsBlank blank) :
    read (String.ofList (text ++ blank)) = ⟨value, false⟩ := by
  have whole := reads.read_between isBlank_nil all
  rwa [List.nil_append] at whole

/-- Reading the printed form of a value gives back the value and nothing
after it. -/
theorem read_pretty {value : Json} (portable : IsPortable value) :
    read value.pretty = ⟨Reading.ofJson value, false⟩ := by
  have whole := (readsAs_prettyText 0 value portable).read_append isBlank_nil
  rwa [List.append_nil] at whole

/-- So does reading the form without blanks. -/
theorem read_compact {value : Json} (portable : IsPortable value) :
    read value.compact = ⟨Reading.ofJson value, false⟩ := by
  have whole := (readsAs_compactText value portable).read_append isBlank_nil
  rwa [List.append_nil] at whole

/-- A line break at the end of a text does no harm. -/
theorem read_pretty_line {value : Json} (portable : IsPortable value) :
    read (value.pretty ++ "\n") = ⟨Reading.ofJson value, false⟩ := by
  have whole := (readsAs_prettyText 0 value portable).read_append (isBlank_newLine 0)
  rwa [String.ofList_append] at whole

end RouteAtlas.Json
