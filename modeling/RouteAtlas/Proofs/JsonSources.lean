/-
Module: RouteAtlas.Proofs.JsonSources
Purpose: The ways to write a JSON text: any tokens that the grammar knows, with any blanks
  between them, and that the reader takes each of them for the same reading.
Main exports: Json.Source, Json.Source.WellFormed, Json.Source.IsWritten, Json.Source.reading,
  Json.Source.IsWritten.read, Json.Source.WellFormed.skip
-/
import RouteAtlas.Proofs.JsonRoundTrip

namespace RouteAtlas.Json

/-! ## Numerals -/

/-- The digits before the point of a numeral.  A leading zero stands alone. -/
structure IsWhole (digits : List Char) : Prop where
  nonempty : digits ≠ []
  all : ∀ c ∈ digits, isDigit c = true
  unpadded : ∀ more, digits = '0' :: more → more = []

/-- The point of a numeral and the digits after it, or neither. -/
inductive IsFraction : List Char → Prop where
  | absent : IsFraction []
  | digits {digits : List Char} (nonempty : digits ≠ []) (all : ∀ c ∈ digits, isDigit c = true) :
      IsFraction ('.' :: digits)

/-- The power of ten of a numeral, if it has one. -/
inductive IsPower : List Char → Prop where
  | absent : IsPower []
  | digits {mark : Char} {sign digits : List Char} (marked : mark ∈ ['e', 'E'])
      (signed : sign ∈ [[], ['+'], ['-']]) (nonempty : digits ≠ [])
      (all : ∀ c ∈ digits, isDigit c = true) : IsPower (mark :: (sign ++ digits))

/-- A complete numeral, of whatever size. -/
inductive IsNumeral : List Char → Prop where
  | mk {sign whole fraction power : List Char} (signed : sign ∈ [[], ['-']])
      (isWhole : IsWhole whole) (isFraction : IsFraction fraction) (isPower : IsPower power) :
      IsNumeral (sign ++ (whole ++ (fraction ++ power)))

section Numerals

variable {negative : Bool} {whole digits fraction power rest : List Char}

theorem IsPower.endsDigits (isPower : IsPower power) (delimited : IsDelimited rest) :
    EndsDigits (power ++ rest) := by
  cases isPower with
  | absent => exact delimited.endsDigits
  | digits marked _ _ _ =>
      simp only [List.mem_cons, List.not_mem_nil, or_false] at marked
      rcases marked with rfl | rfl <;> rfl

theorem IsFraction.endsDigits (isFraction : IsFraction fraction) {rest : List Char}
    (ends : EndsDigits rest) : EndsDigits (fraction ++ rest) := by
  cases isFraction with
  | absent => exact ends
  | digits _ _ => rfl

/-- A digit is no sign. -/
theorem ne_sign_of_isDigit {c : Char} (digit : isDigit c = true) : c ≠ '+' ∧ c ≠ '-' := by
  constructor
  · rintro rfl
    cases digit
  · rintro rfl
    cases digit

/-- Digits after the mark of a power, and after its sign. -/
theorem readPower_digits (all : ∀ c ∈ digits, isDigit c = true) (nonempty : digits ≠ [])
    (ends : EndsDigits rest) {mark : Char} (marked : mark ∈ ['e', 'E']) {sign : List Char}
    (signed : sign ∈ [[], ['+'], ['-']]) (fraction : Option (List Char)) :
    readPower negative whole fraction (mark :: (sign ++ (digits ++ rest))) =
      readNumeral ⟨negative, whole, fraction, some (sign == ['-'], digits)⟩ rest := by
  have mark : mark = 'e' ∨ mark = 'E' := by simpa using marked
  obtain ⟨taken, dropped⟩ := takeWhile_digits all ends
  obtain ⟨c, more, rfl⟩ := List.exists_cons_of_ne_nil nonempty
  obtain ⟨notPlus, notMinus⟩ := ne_sign_of_isDigit (all c (by simp))
  rw [List.cons_append] at taken dropped
  simp only [List.mem_cons, List.not_mem_nil, or_false] at signed
  rcases signed with rfl | rfl | rfl
  · simp [readPower, mark, notPlus, notMinus, taken, dropped]
  · simp [readPower, mark, taken, dropped]
  · simp [readPower, mark, taken, dropped]

theorem IsPower.read (isPower : IsPower power) (negative : Bool) (whole : List Char)
    (fraction : Option (List Char)) :
    ∃ numeral, ∀ rest, IsDelimited rest →
      readPower negative whole fraction (power ++ rest) = readNumeral numeral rest := by
  cases isPower with
  | absent =>
      refine ⟨⟨negative, whole, fraction, none⟩, ?_⟩
      intro rest delimited
      cases rest with
      | nil => rfl
      | cons c rest =>
          obtain ⟨_, _, notSmall, notLarge⟩ := delimited.head
          simp [readPower, notSmall, notLarge]
  | @digits mark sign digits marked signed nonempty all =>
      refine ⟨⟨negative, whole, fraction, some (sign == ['-'], digits)⟩, ?_⟩
      intro rest delimited
      rw [List.cons_append, List.append_assoc]
      exact readPower_digits all nonempty delimited.endsDigits marked signed fraction

/-- Without a point the power of ten follows. -/
theorem readFraction_unpointed (negative : Bool) (whole : List Char) {s : List Char}
    (unpointed : ∀ more, s ≠ '.' :: more) :
    readFraction negative whole s = readPower negative whole none s := by
  cases s with
  | nil => rfl
  | cons c s =>
      have notPoint : c ≠ '.' := by
        rintro rfl
        exact unpointed s rfl
      simp [readFraction, notPoint]

theorem IsPower.unpointed (isPower : IsPower power) (delimited : IsDelimited rest)
    (more : List Char) : power ++ rest ≠ '.' :: more := by
  cases isPower with
  | absent =>
      rintro rfl
      exact delimited.head.2.1 rfl
  | digits marked _ _ _ =>
      simp only [List.mem_cons, List.not_mem_nil, or_false] at marked
      rcases marked with rfl | rfl <;> simp

theorem IsFraction.read (isFraction : IsFraction fraction) (isPower : IsPower power)
    (negative : Bool) (whole : List Char) :
    ∃ numeral, ∀ rest, IsDelimited rest →
      readFraction negative whole (fraction ++ (power ++ rest)) = readNumeral numeral rest := by
  cases isFraction with
  | absent =>
      obtain ⟨numeral, read⟩ := isPower.read negative whole none
      refine ⟨numeral, ?_⟩
      intro rest delimited
      rw [List.nil_append, readFraction_unpointed _ _ (isPower.unpointed delimited)]
      exact read rest delimited
  | @digits digits nonempty all =>
      obtain ⟨numeral, read⟩ := isPower.read negative whole (some digits)
      refine ⟨numeral, ?_⟩
      intro rest delimited
      obtain ⟨taken, dropped⟩ := takeWhile_digits all (isPower.endsDigits delimited)
      rw [← read rest delimited]
      simp [readFraction, taken, dropped, nonempty]

theorem IsWhole.readNumber_eq (isWhole : IsWhole whole) (negative : Bool) {rest : List Char}
    (ends : EndsDigits rest) :
    readNumber negative (whole ++ rest) = readFraction negative whole rest := by
  obtain ⟨taken, dropped⟩ := takeWhile_digits isWhole.all ends
  rw [readNumber, taken, dropped]
  split
  · exact absurd rfl isWhole.nonempty
  · cases isWhole.unpadded _ rfl
  · rfl

end Numerals

/-! ## Tokens -/

/-- A token that is a value: a literal, a numeral, or a string, which need not denote a text. -/
inductive IsToken : List Char → Prop where
  | literal {text : List Char}
      (known : text ∈ [['n', 'u', 'l', 'l'], ['t', 'r', 'u', 'e'], ['f', 'a', 'l', 's', 'e']]) :
      IsToken text
  | numeral {text : List Char} (isNumeral : IsNumeral text) : IsToken text
  | string {body : List Char} (isBody : IsBody body) : IsToken ('"' :: (body ++ ['"']))

/-- What a token is read as, wherever it stands. -/
structure ReadsToken (text : List Char) (value : Reading) : Prop where
  opened : IsOpened text
  reads : ∀ (fuel : Nat) (rest : List Char), IsDelimited rest →
    readValue (fuel + 1) (text ++ rest) = (value, rest)

theorem ReadsToken.readsAs {text : List Char} {value : Reading} (reads : ReadsToken text value) :
    ReadsAs text value where
  opened := reads.opened
  reads := by
    intro fuel rest enough delimited
    obtain ⟨c, more, rfl, _⟩ := reads.opened.head
    obtain ⟨left, rfl, _⟩ := fuel_cons enough
    exact reads.reads left rest delimited

theorem ReadsToken.eq {text : List Char} {value : Reading} (reads : ReadsToken text value) :
    readValue 1 text = (value, []) := by
  have read := reads.reads 0 [] trivial
  rwa [List.append_nil] at read

theorem readsToken_literal {text : List Char}
    (known : text ∈ [['n', 'u', 'l', 'l'], ['t', 'r', 'u', 'e'], ['f', 'a', 'l', 's', 'e']]) :
    ∃ value, value.skip = .ok () ∧ ReadsToken text value := by
  simp only [List.mem_cons, List.not_mem_nil, or_false] at known
  rcases known with rfl | rfl | rfl
  · refine ⟨.null, rfl, by simp [IsOpened], ?_⟩
    intro fuel rest _
    have read := readLiteral_self .null ['u', 'l', 'l'] rest
    simpa [readValue, skipBlanks] using read
  · refine ⟨.bool true, rfl, by simp [IsOpened], ?_⟩
    intro fuel rest _
    have read := readLiteral_self (.bool true) ['r', 'u', 'e'] rest
    simpa [readValue, skipBlanks] using read
  · refine ⟨.bool false, rfl, by simp [IsOpened], ?_⟩
    intro fuel rest _
    have read := readLiteral_self (.bool false) ['a', 'l', 's', 'e'] rest
    simpa [readValue, skipBlanks] using read

/-- A numeral that is out of range is passed over like any other. -/
theorem skip_readNumeral (numeral : Numeral) (rest : List Char) :
    (readNumeral numeral rest).1.skip = .ok () ∧
      readNumeral numeral rest = ((readNumeral numeral []).1, rest) := by
  unfold readNumeral
  split <;> exact ⟨rfl, rfl⟩

theorem readsToken_numeral {text : List Char} (isNumeral : IsNumeral text) :
    ∃ value, value.skip = .ok () ∧ ReadsToken text value := by
  obtain ⟨signed, isWhole, isFraction, isPower⟩ := isNumeral
  rename_i sign whole fraction power
  obtain ⟨c, more, rfl⟩ := List.exists_cons_of_ne_nil isWhole.nonempty
  have digit : isDigit c = true := isWhole.all c (by simp)
  have number : ∀ negative, ∃ numeral, ∀ rest, IsDelimited rest →
      readNumber negative (c :: more ++ (fraction ++ (power ++ rest))) =
        ((readNumeral numeral []).1, rest) := by
    intro negative
    obtain ⟨numeral, read⟩ := isFraction.read isPower negative (c :: more)
    refine ⟨numeral, ?_⟩
    intro rest delimited
    rw [isWhole.readNumber_eq negative (isFraction.endsDigits (isPower.endsDigits delimited)),
      read rest delimited]
    exact (skip_readNumeral numeral rest).2
  simp only [List.mem_cons, List.not_mem_nil, or_false] at signed
  rcases signed with rfl | rfl
  · obtain ⟨numeral, read⟩ := number false
    refine ⟨_, (skip_readNumeral numeral []).1, ?_, ?_⟩
    · intro blank
      simp only [List.mem_cons, List.not_mem_nil, or_false] at blank
      rcases blank with rfl | rfl | rfl | rfl | rfl <;> simp [isDigit] at digit
    · intro fuel rest delimited
      rw [← read rest delimited]
      simpa using readValue_digit digit fuel (more ++ (fraction ++ (power ++ rest)))
  · obtain ⟨numeral, read⟩ := number true
    refine ⟨_, (skip_readNumeral numeral []).1, by simp [IsOpened], ?_⟩
    intro fuel rest delimited
    rw [← read rest delimited]
    simp [readValue, skipBlanks]

/-- What a string is read as, with what is left, when its scan has ended. -/
def scannedString : Scanned → Reading × List Char
  | .text chars rest => (.string (String.ofList chars), rest)
  | .flawed rest => (.unusable, rest)
  | .broken used skipped => (.broken false used skipped, [])

theorem readsToken_string {body : List Char} (isBody : IsBody body) :
    ∃ value, value.skip = .ok () ∧ ReadsToken ('"' :: (body ++ ['"'])) value := by
  have value : ∀ fuel rest, readValue (fuel + 1) ('"' :: (body ++ ['"']) ++ rest) =
      scannedString (scanString .plain true [] (body ++ ['"'] ++ rest)) := fun _ _ => rfl
  rcases isBody.scan.1 true [] [] with ⟨text, closed⟩ | flawed
  · refine ⟨.string (String.ofList text), rfl, by simp [IsOpened], ?_⟩
    intro fuel rest _
    rw [value, (scanString_append rest).1 text closed]
    rfl
  · refine ⟨.unusable, rfl, by simp [IsOpened], ?_⟩
    intro fuel rest _
    rw [value, (scanString_append rest).2 flawed]
    rfl

/-- Every token is read as something that can be passed over. -/
theorem IsToken.reads {text : List Char} (isToken : IsToken text) :
    ∃ value, value.skip = .ok () ∧ ReadsToken text value := by
  cases isToken with
  | literal known => exact readsToken_literal known
  | numeral isNumeral => exact readsToken_numeral isNumeral
  | string isBody => exact readsToken_string isBody

/-! ## Sources -/

/-- A JSON text without its blanks: the characters of each token as they are written.  The name
of a member is what stands between its quotes. -/
inductive Source where
  | token (text : List Char)
  | array (items : List Source)
  | object (members : List (List Char × Source))

namespace Source

/-- A text that the grammar knows. -/
inductive WellFormed : Source → Prop where
  | token {text : List Char} (isToken : IsToken text) : WellFormed (.token text)
  | array {items : List Source} (each : ∀ item ∈ items, WellFormed item) :
      WellFormed (.array items)
  | object {members : List (List Char × Source)} (names : ∀ member ∈ members, IsBody member.1)
      (each : ∀ member ∈ members, WellFormed member.2) : WellFormed (.object members)

mutual

/-- How many arrays and objects enclose the innermost position of a text. -/
def depth : Source → Nat
  | .token _ => 0
  | .array items => itemsDepth items + 1
  | .object members => membersDepth members + 1

/-- The greatest depth among the items of an array. -/
def itemsDepth : List Source → Nat
  | [] => 0
  | item :: rest => max item.depth (itemsDepth rest)

/-- The greatest depth among the members of an object. -/
def membersDepth : List (List Char × Source) → Nat
  | [] => 0
  | (_, value) :: rest => max value.depth (membersDepth rest)

end

mutual

/-- What the reader takes a text for. -/
def reading : Source → Reading
  | .token text => (readValue 1 text).1
  | .array items => .array (itemsReading items)
  | .object members => .object (membersReading members)

/-- What the reader takes the items of an array for. -/
def itemsReading : List Source → Items
  | [] => .close
  | item :: rest => .item item.reading (itemsReading rest)

/-- What the reader takes the members of an object for. -/
def membersReading : List (List Char × Source) → Members
  | [] => .close
  | (name, value) :: rest =>
      .member (readKey (name ++ ['"'])).1 value.reading (membersReading rest)

end

mutual

/-- The tokens of a text in their order. -/
def tokens : Source → List (List Char)
  | .token text => [text]
  | .array [] => [['['], [']']]
  | .array (item :: rest) => ['['] :: (item.tokens ++ moreItems rest)
  | .object [] => [['\x7b'], ['\x7d']]
  | .object ((name, value) :: rest) =>
      ['\x7b'] :: ('"' :: (name ++ ['"'])) :: [':'] :: (value.tokens ++ moreMembers rest)

/-- The tokens that follow an item. -/
def moreItems : List Source → List (List Char)
  | [] => [[']']]
  | item :: rest => [','] :: (item.tokens ++ moreItems rest)

/-- The tokens that follow a member. -/
def moreMembers : List (List Char × Source) → List (List Char)
  | [] => [['\x7d']]
  | (name, value) :: rest =>
      [','] :: ('"' :: (name ++ ['"'])) :: [':'] :: (value.tokens ++ moreMembers rest)

end

end Source

/-- Tokens with any blanks before each of them. -/
inductive Spaced : List (List Char) → List Char → Prop where
  | nil : Spaced [] []
  | cons {blank token : List Char} {tokens : List (List Char)} {text : List Char}
      (all : IsBlank blank) (others : Spaced tokens text) :
      Spaced (token :: tokens) (blank ++ (token ++ text))

/-- A text writes a source: the tokens of the source with any blanks before, between and after
them. -/
structure Source.IsWritten (source : Source) (text : String) : Prop where
  wellFormed : source.WellFormed
  spaced : ∃ body blank, Spaced source.tokens body ∧ IsBlank blank ∧ text.toList = body ++ blank

/-! ### Passing over -/

namespace Source

theorem skip_items {items : List Source}
    (each : ∀ item ∈ items, item.reading.skip = .ok ()) : (itemsReading items).skip = .ok () := by
  induction items with
  | nil => rfl
  | cons item items ih =>
      obtain ⟨first, others⟩ := List.forall_mem_cons.mp each
      rw [itemsReading, Items.skip, first]
      exact ih others

/-- A name is read the same whatever follows it, and it is complete even if it is no text. -/
theorem readKey_body {body : List Char} (isBody : IsBody body) :
    ∃ key, (∀ rest, readKey (body ++ '"' :: rest) = (key, rest)) ∧
      ∀ used skipped, key ≠ .broken used skipped := by
  have shape : ∀ rest, body ++ '"' :: rest = body ++ ['"'] ++ rest := by simp
  rcases isBody.scan.1 true [] [] with ⟨text, closed⟩ | flawed
  · refine ⟨.name (String.ofList text), ?_, by simp⟩
    intro rest
    rw [readKey, shape, (scanString_append rest).1 text closed]
    rfl
  · refine ⟨.unusable, ?_, by simp⟩
    intro rest
    rw [readKey, shape, (scanString_append rest).2 flawed]
    rfl

theorem skip_members {members : List (List Char × Source)}
    (names : ∀ member ∈ members, IsBody member.1)
    (each : ∀ member ∈ members, member.2.reading.skip = .ok ()) :
    (membersReading members).skip = .ok () := by
  induction members with
  | nil => rfl
  | cons member members ih =>
      obtain ⟨name, value⟩ := member
      obtain ⟨named, otherNames⟩ := List.forall_mem_cons.mp names
      obtain ⟨first, others⟩ := List.forall_mem_cons.mp each
      obtain ⟨key, read, complete⟩ := readKey_body named
      rw [membersReading, read [], Members.skip, first]
      · exact ih otherNames others
      · exact complete

/-- Any well-formed text is passed over where nobody needs it. -/
theorem WellFormed.skip {source : Source} (wellFormed : source.WellFormed) :
    source.reading.skip = .ok () := by
  induction wellFormed with
  | token isToken =>
      obtain ⟨value, skipped, reads⟩ := isToken.reads
      rw [reading, reads.eq]
      exact skipped
  | array _ ih => exact skip_items ih
  | object names _ ih => exact skip_members names ih

end Source

/-! ### Reading -/

theorem Spaced.append {one other : List (List Char)} {text : List Char}
    (spaced : Spaced (one ++ other) text) :
    ∃ first second, text = first ++ second ∧ Spaced one first ∧ Spaced other second := by
  induction one generalizing text with
  | nil => exact ⟨[], text, rfl, .nil, spaced⟩
  | cons token one ih =>
      obtain _ | ⟨all, others⟩ := spaced
      obtain ⟨first, second, rfl, front, back⟩ := ih others
      exact ⟨_, second, by simp, .cons all front, back⟩

theorem Spaced.head {token : List Char} {tokens : List (List Char)} {text : List Char}
    (spaced : Spaced (token :: tokens) text) :
    ∃ blank rest, IsBlank blank ∧ Spaced tokens rest ∧ text = blank ++ (token ++ rest) := by
  obtain _ | ⟨all, others⟩ := spaced
  exact ⟨_, _, all, others, rfl⟩

theorem Spaced.nil_eq {text : List Char} (spaced : Spaced [] text) : text = [] := by
  cases spaced
  rfl

namespace Source

/-- However its tokens are spaced, a source is read as its reading. -/
def IsRead (source : Source) : Prop :=
  ∀ text, Spaced source.tokens text →
    ∃ blank body, text = blank ++ body ∧ IsBlank blank ∧ ReadsAs body source.reading

theorem readsMore_moreItems {items : List Source} (each : ∀ item ∈ items, item.IsRead)
    {text : List Char} (spaced : Spaced (moreItems items) text) :
    ReadsMoreItems text (itemsReading items) := by
  induction items generalizing text with
  | nil =>
      obtain ⟨blank, rest, all, ended, rfl⟩ := spaced.head
      rw [ended.nil_eq, List.append_nil]
      exact readsMoreItems_close all
  | cons item items ih =>
      obtain ⟨first, others⟩ := List.forall_mem_cons.mp each
      obtain ⟨blank, rest, all, inside, rfl⟩ := spaced.head
      obtain ⟨front, back, rfl, spacedFront, spacedBack⟩ := inside.append
      obtain ⟨inner, body, rfl, allInner, reads⟩ := first front spacedFront
      rw [List.append_assoc]
      exact (ReadsMoreItems.item allInner reads (ih others spacedBack)).blank all

/-- The tokens of a member, and of those that follow it. -/
theorem readsMember_spaced {name : List Char} {value : Source}
    {members : List (List Char × Source)} (named : IsBody name) (isRead : value.IsRead)
    (others : ∀ {text}, Spaced (moreMembers members) text →
      ReadsMoreMembers text (membersReading members)) {text : List Char}
    (spaced : Spaced (('"' :: (name ++ ['"'])) :: [':'] :: (value.tokens ++ moreMembers members))
      text) :
    ∃ blank body, text = blank ++ '"' :: body ∧ IsBlank blank ∧
      ReadsMember body (membersReading ((name, value) :: members)) := by
  obtain ⟨blank, rest, all, afterName, rfl⟩ := spaced.head
  obtain ⟨before, rest, allBefore, afterColon, rfl⟩ := afterName.head
  obtain ⟨front, back, rfl, spacedFront, spacedBack⟩ := afterColon.append
  obtain ⟨inner, body, rfl, allInner, reads⟩ := isRead front spacedFront
  obtain ⟨key, read, _⟩ := readKey_body named
  have member := readsMember_named read allBefore allInner reads (others spacedBack)
  rw [membersReading, read []]
  refine ⟨blank, _, ?_, all, member⟩
  simp

theorem readsMore_moreMembers {members : List (List Char × Source)}
    (names : ∀ member ∈ members, IsBody member.1)
    (each : ∀ member ∈ members, member.2.IsRead) {text : List Char}
    (spaced : Spaced (moreMembers members) text) :
    ReadsMoreMembers text (membersReading members) := by
  induction members generalizing text with
  | nil =>
      obtain ⟨blank, rest, all, ended, rfl⟩ := spaced.head
      rw [ended.nil_eq, List.append_nil]
      exact readsMoreMembers_close all
  | cons member members ih =>
      obtain ⟨named, otherNames⟩ := List.forall_mem_cons.mp names
      obtain ⟨first, others⟩ := List.forall_mem_cons.mp each
      obtain ⟨blank, rest, all, inside, rfl⟩ := spaced.head
      obtain ⟨inner, body, rfl, allInner, reads⟩ :=
        readsMember_spaced named first (ih otherNames others) inside
      exact (reads.more allInner).blank all

/-- A well-formed text is read as its reading, however its tokens are spaced. -/
theorem WellFormed.isRead {source : Source} (wellFormed : source.WellFormed) : source.IsRead := by
  induction wellFormed with
  | token isToken =>
      intro text spaced
      obtain ⟨value, _, reads⟩ := isToken.reads
      obtain ⟨blank, rest, all, ended, rfl⟩ := spaced.head
      rw [ended.nil_eq, List.append_nil, reading, reads.eq]
      exact ⟨blank, _, rfl, all, reads.readsAs⟩
  | @array items _ ih =>
      intro text spaced
      cases items with
      | nil =>
          obtain ⟨blank, rest, all, inside, rfl⟩ := spaced.head
          obtain ⟨inner, rest, allInner, ended, rfl⟩ := inside.head
          refine ⟨blank, _, rfl, all, readsAs_array ?_⟩
          intro fuel after enough
          rw [ended.nil_eq]
          simpa [itemsReading] using readItems_close allInner (by omega : 0 < fuel) after
      | cons item items =>
          obtain ⟨first, others⟩ := List.forall_mem_cons.mp ih
          obtain ⟨blank, rest, all, inside, rfl⟩ := spaced.head
          obtain ⟨front, back, rfl, spacedFront, spacedBack⟩ := inside.append
          obtain ⟨inner, body, rfl, allInner, reads⟩ := first front spacedFront
          refine ⟨blank, _, rfl, all, readsAs_array ?_⟩
          intro fuel after enough
          have items := readItems_item allInner reads (readsMore_moreItems others spacedBack)
            (by simpa using enough) after
          simpa [itemsReading] using items
  | @object members names _ ih =>
      intro text spaced
      cases members with
      | nil =>
          obtain ⟨blank, rest, all, inside, rfl⟩ := spaced.head
          obtain ⟨inner, rest, allInner, ended, rfl⟩ := inside.head
          refine ⟨blank, _, rfl, all, readsAs_object ?_⟩
          intro fuel after enough
          rw [ended.nil_eq]
          simpa [membersReading] using readMembers_close allInner (by omega : 0 < fuel) after
      | cons member members =>
          obtain ⟨named, otherNames⟩ := List.forall_mem_cons.mp names
          obtain ⟨first, others⟩ := List.forall_mem_cons.mp ih
          obtain ⟨blank, rest, all, inside, rfl⟩ := spaced.head
          obtain ⟨inner, body, rfl, allInner, reads⟩ :=
            readsMember_spaced named first (readsMore_moreMembers otherNames others) inside
          refine ⟨blank, _, rfl, all, readsAs_object ?_⟩
          intro fuel after enough
          simpa using reads.first allInner enough after

/-- A written text is read as the reading of its source, and nothing comes after it. -/
theorem IsWritten.read {source : Source} {text : String} (written : source.IsWritten text) :
    Json.read text = ⟨source.reading, false⟩ := by
  obtain ⟨body, blank, spaced, all, shape⟩ := written.spaced
  obtain ⟨before, inner, rfl, allBefore, reads⟩ := written.wellFormed.isRead body spaced
  have whole := reads.read_between allBefore all
  rwa [← List.append_assoc, ← shape, String.ofList_toList] at whole

end Source

end RouteAtlas.Json
