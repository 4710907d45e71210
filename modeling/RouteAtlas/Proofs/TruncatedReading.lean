/-
Module: RouteAtlas.Proofs.TruncatedReading
Purpose: What is left of a value when its text stops early: the reading of the start of a
  text is complete, or it is the whole reading with one branch broken off and nothing after it.
Main exports: Json.Cut, Json.Cut.skip, Json.Covers, Json.readValue_start
-/
import RouteAtlas.Proofs.JsonRoundTrip

namespace RouteAtlas.Json

/-!
Numerals are left out on purpose: the start of a numeral may be a complete numeral, so a text
that ends in one can be cut without a trace.  Every other value is closed by its last character.
-/

mutual

/-- What is met of a value when its text stops inside it. -/
inductive Cut : Json → Reading → Prop where
  | missing {form : Json} (present : form ≠ .null) : Cut form (.broken false .early .early)
  | flag (value : Bool) : Cut (.bool value) (.broken true .early .early)
  | array {forms : List Json} {items : Items} (cut : CutItems forms items) :
      Cut (.array forms) (.array items)
  | object {forms : List (String × Json)} {members : Members} (cut : CutMembers forms members) :
      Cut (.object forms) (.object members)

/-- What is met of the items of an array when the text stops before its end. -/
inductive CutItems : List Json → Items → Prop where
  | ended (forms : List Json) : CutItems forms (.broken .early)
  | inside {form : Json} {rest : List Json} {head : Reading} (cut : Cut form head) :
      CutItems (form :: rest) (.item head (.broken .early))
  | later {form : Json} {rest : List Json} {items : Items} (cut : CutItems rest items) :
      CutItems (form :: rest) (.item (Reading.ofJson form) items)

/-- What is met of the members of an object when the text stops before its end. -/
inductive CutMembers : List (String × Json) → Members → Prop where
  | ended (forms : List (String × Json)) : CutMembers forms (.broken .early)
  | key (form : String × Json) (rest : List (String × Json)) (value : Reading)
      (members : Members) :
      CutMembers (form :: rest) (.member (.broken .early .early) value members)
  | inside {name : String} {form : Json} {rest : List (String × Json)} {value : Reading}
      (cut : Cut form value) :
      CutMembers ((name, form) :: rest) (.member (.name name) value (.broken .early))
  | later {name : String} {form : Json} {rest : List (String × Json)} {members : Members}
      (cut : CutMembers rest members) :
      CutMembers ((name, form) :: rest) (.member (.name name) (Reading.ofJson form) members)

end

theorem Cut.ofJson_ne_null {form : Json} {part : Reading} (cut : Cut form part) :
    Reading.ofJson form ≠ .null := by
  cases cut with
  | missing present => cases form <;> simp_all [Reading.ofJson]
  | flag _ | array _ | object _ => simp [Reading.ofJson]

theorem Cut.ne_null {form : Json} {part : Reading} (cut : Cut form part) : part ≠ .null := by
  cases cut <;> simp

/-! ### Passing over -/

mutual

/-- A complete value is passed over. -/
theorem Reading.skip_ofJson : ∀ form : Json, (Reading.ofJson form).skip = .ok ()
  | .null | .bool _ | .int _ | .string _ => rfl
  | .array items => Items.skip_ofList items
  | .object members => Members.skip_ofList members

theorem Items.skip_ofList : ∀ forms : List Json, (Items.ofList forms).skip = .ok ()
  | [] => rfl
  | form :: forms => by
      rw [Items.ofList, Items.skip, Reading.skip_ofJson form]
      exact Items.skip_ofList forms

theorem Members.skip_ofList : ∀ forms : List (String × Json), (Members.ofList forms).skip = .ok ()
  | [] => rfl
  | (name, form) :: forms => by
      rw [Members.ofList, Members.skip, Reading.skip_ofJson form]
      · exact Members.skip_ofList forms
      · simp

end

mutual

/-- A value that is cut short cannot be passed over. -/
theorem Cut.skip : ∀ {form : Json} {part : Reading}, Cut form part → part.skip = .error .early
  | _, _, .missing _ => rfl
  | _, _, .flag _ => rfl
  | _, _, .array cut => cut.skip
  | _, _, .object cut => cut.skip

theorem CutItems.skip : ∀ {forms : List Json} {items : Items},
    CutItems forms items → items.skip = .error .early
  | _, _, .ended _ => rfl
  | _, _, .inside cut => by
      rw [Items.skip, cut.skip]
  | form :: _, _, .later cut => by
      rw [Items.skip, Reading.skip_ofJson form]
      exact cut.skip

theorem CutMembers.skip : ∀ {forms : List (String × Json)} {members : Members},
    CutMembers forms members → members.skip = .error .early
  | _, _, .ended _ => rfl
  | _, _, .key _ _ _ _ => rfl
  | _, _, .inside cut => by
      rw [Members.skip, cut.skip]
      simp
  | (_, form) :: _, _, .later cut => by
      rw [Members.skip, Reading.skip_ofJson form]
      · exact cut.skip
      · simp

end

/-! ### Starts of texts -/

/-- What is found in the start of a text, when `whole` is found in the text and `rest` is left
of it: the same, with all of `lost` still to come, or a part of it with nothing to come. -/
def Covers {R : Type} (whole : R) (IsCut : R → Prop) (rest lost : List Char)
    (found : R × List Char) : Prop :=
  (∃ left, rest = left ++ lost ∧ found = (whole, left)) ∨ ∃ part, IsCut part ∧ found = (part, [])

theorem Covers.whole {R : Type} {whole : R} {IsCut : R → Prop} {lost left : List Char} :
    Covers whole IsCut (left ++ lost) lost (whole, left) :=
  .inl ⟨left, rfl, rfl⟩

theorem Covers.cut {R : Type} {whole part : R} {IsCut : R → Prop} {rest lost : List Char}
    (cut : IsCut part) : Covers whole IsCut rest lost (part, []) :=
  .inr ⟨part, cut, rfl⟩

theorem Covers.map {R S : Type} {whole : R} {IsCut : R → Prop} {IsCutOf : S → Prop}
    {rest lost : List Char} {found : R × List Char} (make : R → S)
    (covers : Covers whole IsCut rest lost found) (inside : ∀ part, IsCut part → IsCutOf (make part)) :
    Covers (make whole) IsCutOf rest lost (make found.1, found.2) := by
  rcases covers with ⟨left, rfl, rfl⟩ | ⟨part, cut, rfl⟩
  · exact .whole
  · exact .cut (inside part cut)

/-! ## Strings -/

/-- A string that is known to be flawed denotes no text. -/
theorem scanString_flawed {state : ScanState} {done s text rest : List Char} :
    scanString state false done s ≠ .text text rest := by
  induction s generalizing state done with
  | nil => simp [scanString]
  | cons c s ih =>
      cases scanString_step state false done c with
      | goesOn next still done lasting same =>
          have flawed : still = false := by simpa using lasting
          rw [same, flawed]
          exact ih
      | closes _ flawless _ => cases flawless
      | flawed same =>
          rw [same]
          simp
      | breaks same =>
          obtain ⟨used, skipped, broken⟩ := same s
          rw [broken]
          simp

/-- A string that is read to its end is read to the same end in every start of the text that
holds it; a shorter start breaks off inside the string. -/
theorem scanString_start {state : ScanState} {sound : Bool} {done start lost text rest : List Char}
    (scanned : scanString state sound done (start ++ lost) = .text text rest) :
    (∃ left, rest = left ++ lost ∧ scanString state sound done start = .text text left) ∨
      scanString state sound done start = .broken .early .early := by
  induction start generalizing state sound done with
  | nil =>
      cases sound with
      | true => exact .inr (by simp [scanString, usedBreak])
      | false => exact absurd scanned scanString_flawed
  | cons c start ih =>
      rw [List.cons_append] at scanned
      cases scanString_step state sound done c with
      | goesOn next still done _ same =>
          rw [same] at scanned ⊢
          exact ih scanned
      | closes closed _ same =>
          rw [same] at scanned ⊢
          injection scanned with equal after
          exact .inl ⟨start, after.symm, by rw [equal]⟩
      | flawed same =>
          rw [same] at scanned
          cases scanned
      | breaks same =>
          obtain ⟨used, skipped, broken⟩ := same (start ++ lost)
          rw [broken] at scanned
          cases scanned

/-- A name that is read to its end is read to the same end in every start of the text that
holds it. -/
theorem readKey_start {start lost : List Char} {name : String}
    (named : (readKey (start ++ lost)).1 = .name name) :
    Covers (Key.name name) (· = .broken .early .early) (readKey (start ++ lost)).2 lost
      (readKey start) := by
  unfold readKey at named ⊢
  split at named
  · next text rest scanned =>
    injection named with same
    rw [← same]
    rcases scanString_start scanned with ⟨left, rfl, closed⟩ | broken
    · rw [closed]
      exact .whole
    · rw [broken]
      exact .cut rfl
  · cases named
  · cases named

/-! ## Literals and numerals -/

theorem ofJson_ne_broken {form : Json} {begun : Bool} {used skipped : Break} :
    Reading.ofJson form ≠ .broken begun used skipped := by
  cases form <;> simp [Reading.ofJson]

/-- The letters of a literal give its value or a break. -/
theorem readLiteral_value {value : Reading} {letters s rest : List Char} {form : Json}
    (read : readLiteral value letters s = (Reading.ofJson form, rest)) :
    Reading.ofJson form = value := by
  induction letters generalizing s with
  | nil =>
      injection read with same _
      exact same.symm
  | cons letter letters ih =>
      cases s with
      | nil =>
          injection read with broken _
          exact absurd broken.symm ofJson_ne_broken
      | cons c s =>
          rw [readLiteral] at read
          split at read
          · exact ih read
          · injection read with broken _
            exact absurd broken.symm ofJson_ne_broken

theorem readLiteral_start {value : Reading} {letters start lost rest : List Char} {form : Json}
    (read : readLiteral value letters (start ++ lost) = (Reading.ofJson form, rest)) :
    Covers (Reading.ofJson form) (· = .broken true .early .early) rest lost
      (readLiteral value letters start) := by
  induction letters generalizing start with
  | nil =>
      injection read with same after
      rw [← after, ← same]
      exact .whole
  | cons letter letters ih =>
      cases start with
      | nil => exact .cut rfl
      | cons c start =>
          rw [List.cons_append] at read
          simp only [readLiteral] at read ⊢
          split at read
          · next same =>
            rw [if_pos same]
            exact ih read
          · injection read with broken _
            exact absurd broken.symm ofJson_ne_broken

/-- A numeral, complete or not. -/
def IsNumeric : Reading → Prop
  | .number _ | .unusable | .broken _ _ _ => True
  | _ => False

theorem isNumeric_digitDue (rest : List Char) : IsNumeric (digitDue rest).1 := by
  unfold digitDue
  split <;> trivial

theorem isNumeric_readNumeral (numeral : Numeral) (rest : List Char) :
    IsNumeric (readNumeral numeral rest).1 := by
  unfold readNumeral
  split <;> trivial

theorem isNumeric_readPower (negative : Bool) (whole : List Char) (fraction : Option (List Char))
    (s : List Char) : IsNumeric (readPower negative whole fraction s).1 := by
  have signed : ∀ power : Bool × List Char, IsNumeric
      (if (power.2.takeWhile isDigit).isEmpty then digitDue power.2
      else readNumeral ⟨negative, whole, fraction, some (power.1, power.2.takeWhile isDigit)⟩
        (power.2.dropWhile isDigit)).1 := by
    intro power
    split
    · exact isNumeric_digitDue _
    · exact isNumeric_readNumeral _ _
  unfold readPower
  split
  · exact isNumeric_readNumeral _ _
  split
  · exact signed _
  · exact isNumeric_readNumeral _ _

theorem isNumeric_readNumber (negative : Bool) (s : List Char) :
    IsNumeric (readNumber negative s).1 := by
  unfold readNumber
  dsimp only
  split
  · exact isNumeric_digitDue _
  · trivial
  unfold readFraction
  split
  · exact isNumeric_readPower _ _ _ _
  split
  · dsimp only
    split
    · exact isNumeric_digitDue _
    · exact isNumeric_readPower _ _ _ _
  · exact isNumeric_readPower _ _ _ _

/-- What is made of texts and flags is no numeral. -/
theorem IsVerbal.not_numeric {form : Json} (verbal : IsVerbal form) :
    ¬ IsNumeric (Reading.ofJson form) := by
  cases verbal <;> simp [Reading.ofJson, IsNumeric]

/-! ## Values -/

theorem skipBlanks_start (start lost : List Char) :
    skipBlanks start = [] ∨
      ∃ c more, skipBlanks start = c :: more ∧ skipBlanks (start ++ lost) = c :: (more ++ lost) := by
  induction start with
  | nil => exact .inl rfl
  | cons c start ih =>
      simp only [skipBlanks, List.cons_append, List.dropWhile_cons] at ih ⊢
      split
      · exact ih
      · exact .inr ⟨c, start, rfl, rfl⟩

/-- Six readers, each over the start of a text of which it reads all with `fuel` steps.  A start
that is read with too few steps ends early as well. -/
structure StartsCovered (fuel : Nat) : Prop where
  value : ∀ (less : Nat) {form : Json} {start lost rest : List Char}, IsVerbal form →
    readValue fuel (start ++ lost) = (Reading.ofJson form, rest) →
      Covers (Reading.ofJson form) (Cut form) rest lost (readValue less start)
  items : ∀ (less : Nat) {forms : List Json} {start lost rest : List Char},
    (∀ form ∈ forms, IsVerbal form) →
    readItems fuel (start ++ lost) = (Items.ofList forms, rest) →
      Covers (Items.ofList forms) (CutItems forms) rest lost (readItems less start)
  moreItems : ∀ (less : Nat) {forms : List Json} {start lost rest : List Char},
    (∀ form ∈ forms, IsVerbal form) →
    readMoreItems fuel (start ++ lost) = (Items.ofList forms, rest) →
      Covers (Items.ofList forms) (CutItems forms) rest lost (readMoreItems less start)
  members : ∀ (less : Nat) {forms : List (String × Json)} {start lost rest : List Char},
    (∀ form ∈ forms, IsVerbal form.2) →
    readMembers fuel (start ++ lost) = (Members.ofList forms, rest) →
      Covers (Members.ofList forms) (CutMembers forms) rest lost (readMembers less start)
  member : ∀ (less : Nat) {forms : List (String × Json)} {start lost rest : List Char},
    (∀ form ∈ forms, IsVerbal form.2) →
    readMember fuel (start ++ lost) = (Members.ofList forms, rest) →
      Covers (Members.ofList forms) (CutMembers forms) rest lost (readMember less start)
  moreMembers : ∀ (less : Nat) {forms : List (String × Json)} {start lost rest : List Char},
    (∀ form ∈ forms, IsVerbal form.2) →
    readMoreMembers fuel (start ++ lost) = (Members.ofList forms, rest) →
      Covers (Members.ofList forms) (CutMembers forms) rest lost (readMoreMembers less start)

theorem readMoreItems_nil (fuel : Nat) : readMoreItems fuel [] = (.broken .early, []) := by
  cases fuel <;> rfl

theorem readMoreMembers_nil (fuel : Nat) : readMoreMembers fuel [] = (.broken .early, []) := by
  cases fuel <;> rfl

namespace StartsCovered

variable {fuel : Nat}

/-- What follows an opening quote. -/
theorem string_start {form : Json} (verbal : IsVerbal form) {start lost rest : List Char}
    (read : (match scanString .plain true [] (start ++ lost) with
      | .text chars rest => (Reading.string (String.ofList chars), rest)
      | .flawed rest => (.unusable, rest)
      | .broken used skipped => (.broken false used skipped, [])) = (Reading.ofJson form, rest)) :
    Covers (Reading.ofJson form) (Cut form) rest lost
      (match scanString .plain true [] start with
      | .text chars rest => (.string (String.ofList chars), rest)
      | .flawed rest => (.unusable, rest)
      | .broken used skipped => (.broken false used skipped, [])) := by
  split at read
  · next text after scanned =>
    injection read with value same
    rcases scanString_start scanned with ⟨left, rfl, closed⟩ | broken
    · rw [closed, ← same, ← value]
      exact .whole
    · rw [broken]
      exact .cut (.missing verbal.ne_null)
  · injection read with unusable _
    exact absurd (unusable ▸ trivial : IsNumeric (Reading.ofJson form)) verbal.not_numeric
  · injection read with broken _
    exact absurd broken.symm ofJson_ne_broken

/-- What follows the first letter of a flag. -/
theorem flag_start {value : Bool} {letters start lost rest : List Char} {form : Json}
    (verbal : IsVerbal form)
    (read : readLiteral (.bool value) letters (start ++ lost) = (Reading.ofJson form, rest)) :
    Covers (Reading.ofJson form) (Cut form) rest lost
      (readLiteral (.bool value) letters start) := by
  have same := readLiteral_value read
  refine (readLiteral_start read).map id ?_
  rintro _ rfl
  cases verbal with
  | bool flag => exact .flag flag
  | string _ | array _ | object _ => simp [Reading.ofJson] at same

theorem value_succ (below : StartsCovered fuel) (less : Nat) {form : Json}
    {start lost rest : List Char} (verbal : IsVerbal form)
    (read : readValue (fuel + 1) (start ++ lost) = (Reading.ofJson form, rest)) :
    Covers (Reading.ofJson form) (Cut form) rest lost (readValue less start) := by
  have missing : Cut form (.broken false .early .early) := .missing verbal.ne_null
  have numeral : ∀ {negative s}, readNumber negative s ≠ (Reading.ofJson form, rest) := by
    intro negative s number
    have numeric := isNumeric_readNumber negative s
    rw [number] at numeric
    exact verbal.not_numeric numeric
  cases less with
  | zero => exact .cut missing
  | succ less =>
      rcases skipBlanks_start start lost with blank | ⟨c, more, visible, same⟩
      · rw [readValue, blank]
        exact .cut missing
      rw [readValue, same] at read
      rw [readValue, visible]
      dsimp only at read ⊢
      split at read
      · next quote =>
        rw [if_pos quote]
        exact string_start verbal read
      next notQuote =>
      rw [if_neg notQuote]
      split at read
      · next bracket =>
        rw [if_pos bracket]
        injection read with value after
        cases verbal with
        | array each =>
            injection value with items
            exact (below.items less each (Prod.ext items after)).map Reading.array fun _ => .array
        | string _ | bool _ | object _ => cases value
      next notBracket =>
      rw [if_neg notBracket]
      split at read
      · next brace =>
        rw [if_pos brace]
        injection read with value after
        cases verbal with
        | object each =>
            injection value with members
            exact (below.members less each (Prod.ext members after)).map Reading.object fun _ => .object
        | string _ | bool _ | array _ => cases value
      next notBrace =>
      rw [if_neg notBrace]
      split at read
      · have null := readLiteral_value read
        cases verbal <;> cases null
      next notNull =>
      rw [if_neg notNull]
      split at read
      · next true =>
        rw [if_pos true]
        exact flag_start verbal read
      next notTrue =>
      rw [if_neg notTrue]
      split at read
      · next false =>
        rw [if_pos false]
        exact flag_start verbal read
      split at read
      · exact absurd read numeral
      split at read
      · exact absurd read numeral
      · injection read with broken _
        exact absurd broken.symm ofJson_ne_broken

/-- An item and what follows it. -/
theorem item_start (below : StartsCovered fuel) (less : Nat) {forms : List Json}
    {start lost rest : List Char} (each : ∀ form ∈ forms, IsVerbal form)
    (read : (let (head, after) := readValue fuel (start ++ lost)
      let (tail, after) := readMoreItems fuel after
      (Items.item head tail, after)) = (Items.ofList forms, rest)) :
    Covers (Items.ofList forms) (CutItems forms) rest lost
      (let (head, after) := readValue less start
      let (tail, after) := readMoreItems less after
      (Items.item head tail, after)) := by
  cases forms with
  | nil =>
      injection read with item _
      cases item
  | cons form forms =>
      obtain ⟨first, others⟩ := List.forall_mem_cons.mp each
      injection read with item after
      injection item with head tail
      have whole : readValue fuel (start ++ lost) =
          (Reading.ofJson form, (readValue fuel (start ++ lost)).2) := Prod.ext head rfl
      rcases below.value less first whole with
        ⟨left, between, found⟩ | ⟨part, cut, found⟩
      · rw [between] at tail after
        rw [found]
        exact (below.moreItems less others (Prod.ext tail after)).map (Items.item _) fun _ => .later
      · rw [found]
        dsimp only
        rw [readMoreItems_nil]
        exact .cut (.inside cut)

theorem items_succ (below : StartsCovered fuel) (less : Nat) {forms : List Json}
    {start lost rest : List Char} (each : ∀ form ∈ forms, IsVerbal form)
    (read : readItems (fuel + 1) (start ++ lost) = (Items.ofList forms, rest)) :
    Covers (Items.ofList forms) (CutItems forms) rest lost (readItems less start) := by
  cases less with
  | zero => exact .cut (.ended forms)
  | succ less =>
      rcases skipBlanks_start start lost with blank | ⟨c, more, visible, same⟩
      · rw [readItems, blank]
        exact .cut (.ended forms)
      rw [readItems, same] at read
      rw [readItems, visible]
      dsimp only at read ⊢
      split at read
      · next close =>
        rw [if_pos close]
        injection read with closed after
        rw [← closed, ← after]
        exact .whole
      · next open_ =>
        rw [if_neg open_]
        exact below.item_start less each read

theorem moreItems_succ (below : StartsCovered fuel) (less : Nat) {forms : List Json}
    {start lost rest : List Char} (each : ∀ form ∈ forms, IsVerbal form)
    (read : readMoreItems (fuel + 1) (start ++ lost) = (Items.ofList forms, rest)) :
    Covers (Items.ofList forms) (CutItems forms) rest lost (readMoreItems less start) := by
  cases less with
  | zero => exact .cut (.ended forms)
  | succ less =>
      rcases skipBlanks_start start lost with blank | ⟨c, more, visible, same⟩
      · rw [readMoreItems, blank]
        exact .cut (.ended forms)
      rw [readMoreItems, same] at read
      rw [readMoreItems, visible]
      dsimp only at read ⊢
      split at read
      · next close =>
        rw [if_pos close]
        injection read with closed after
        rw [← closed, ← after]
        exact .whole
      next notClose =>
      rw [if_neg notClose]
      split at read
      · next comma =>
        rw [if_pos comma]
        exact below.item_start less each read
      · injection read with broken _
        cases forms <;> cases broken

theorem members_succ (below : StartsCovered fuel) (less : Nat) {forms : List (String × Json)}
    {start lost rest : List Char} (each : ∀ form ∈ forms, IsVerbal form.2)
    (read : readMembers (fuel + 1) (start ++ lost) = (Members.ofList forms, rest)) :
    Covers (Members.ofList forms) (CutMembers forms) rest lost (readMembers less start) := by
  cases less with
  | zero => exact .cut (.ended forms)
  | succ less =>
      rcases skipBlanks_start start lost with blank | ⟨c, more, visible, same⟩
      · rw [readMembers, blank]
        exact .cut (.ended forms)
      rw [readMembers, same] at read
      rw [readMembers, visible]
      dsimp only at read ⊢
      split at read
      · next close =>
        rw [if_pos close]
        injection read with closed after
        rw [← closed, ← after]
        exact .whole
      next notClose =>
      rw [if_neg notClose]
      split at read
      · next quote =>
        rw [if_pos quote]
        exact below.member less each read
      · injection read with keyless _
        cases forms <;> cases keyless

/-- What follows the name of a member. -/
theorem named_start (below : StartsCovered fuel) (less : Nat) {name : String} {form : Json}
    {forms : List (String × Json)} {start lost rest : List Char}
    (each : ∀ member ∈ (name, form) :: forms, IsVerbal member.2)
    (read : (let (value, after) := readValue fuel (start ++ lost)
      let (tail, after) := readMoreMembers fuel after
      (Members.member (.name name) value tail, after)) =
        (Members.ofList ((name, form) :: forms), rest)) :
    Covers (Members.ofList ((name, form) :: forms)) (CutMembers ((name, form) :: forms)) rest lost
      (let (value, after) := readValue less start
      let (tail, after) := readMoreMembers less after
      (Members.member (.name name) value tail, after)) := by
  obtain ⟨first, others⟩ := List.forall_mem_cons.mp each
  injection read with member after
  injection member with _ value tail
  have whole : readValue fuel (start ++ lost) =
      (Reading.ofJson form, (readValue fuel (start ++ lost)).2) := Prod.ext value rfl
  rcases below.value less first whole with
    ⟨left, between, found⟩ | ⟨part, cut, found⟩
  · rw [between] at tail after
    rw [found]
    exact (below.moreMembers less others (Prod.ext tail after)).map (Members.member _ _)
      fun _ => .later
  · rw [found]
    dsimp only
    rw [readMoreMembers_nil]
    exact .cut (.inside cut)

/-- What is read as a member names it first. -/
theorem readKey_named {fuel : Nat} {s rest : List Char} {forms : List (String × Json)}
    (read : readMember fuel s = (Members.ofList forms, rest)) :
    ∃ name form others, forms = (name, form) :: others ∧ (readKey s).1 = .name name := by
  have shape : ∀ {key value tail}, Members.member key value tail = Members.ofList forms →
      ∃ name form others, forms = (name, form) :: others ∧ key = .name name := by
    intro key value tail same
    cases forms with
    | nil => cases same
    | cons form others =>
        injection same with key
        exact ⟨form.1, form.2, others, rfl, key⟩
  cases fuel with
  | zero => cases forms <;> cases read
  | succ fuel =>
      rw [readMember] at read
      dsimp only at read
      split at read
      · injection read with member _
        exact shape member
      split at read
      · injection read with member _
        exact shape member
      · injection read with member _
        exact shape member

theorem member_succ (below : StartsCovered fuel) (less : Nat) {forms : List (String × Json)}
    {start lost rest : List Char} (each : ∀ form ∈ forms, IsVerbal form.2)
    (read : readMember (fuel + 1) (start ++ lost) = (Members.ofList forms, rest)) :
    Covers (Members.ofList forms) (CutMembers forms) rest lost (readMember less start) := by
  obtain ⟨name, form, forms, rfl, named⟩ := readKey_named read
  have missing : Cut form (.broken false .early .early) :=
    .missing (List.forall_mem_cons.mp each).1.ne_null
  cases less with
  | zero => exact .cut (.ended _)
  | succ less =>
      rcases readKey_start named with ⟨left, between, found⟩ | ⟨_, rfl, broken⟩
      · rw [readMember] at read ⊢
        rw [found]
        dsimp only at read ⊢
        rw [named, between] at read
        rcases skipBlanks_start left lost with blank | ⟨c, more, visible, same⟩
        · rw [blank]
          exact .cut (.inside missing)
        rw [same] at read
        rw [visible]
        dsimp only at read ⊢
        split at read
        · next colon =>
          rw [if_pos colon]
          exact below.named_start less each read
        · injection read with member _
          injection member with _ value _
          exact absurd value.symm ofJson_ne_broken
      · rw [readMember, broken]
        exact .cut (.key _ _ _ _)

theorem moreMembers_succ (below : StartsCovered fuel) (less : Nat) {forms : List (String × Json)}
    {start lost rest : List Char} (each : ∀ form ∈ forms, IsVerbal form.2)
    (read : readMoreMembers (fuel + 1) (start ++ lost) = (Members.ofList forms, rest)) :
    Covers (Members.ofList forms) (CutMembers forms) rest lost (readMoreMembers less start) := by
  cases less with
  | zero => exact .cut (.ended _)
  | succ less =>
      rcases skipBlanks_start start lost with blank | ⟨c, more, visible, same⟩
      · rw [readMoreMembers, blank]
        exact .cut (.ended forms)
      rw [readMoreMembers, same] at read
      rw [readMoreMembers, visible]
      dsimp only at read ⊢
      split at read
      · next close =>
        rw [if_pos close]
        injection read with closed after
        rw [← closed, ← after]
        exact .whole
      next notClose =>
      rw [if_neg notClose]
      split at read
      · next comma =>
        rw [if_pos comma]
        split at read
        · injection read with broken _
          cases forms with
          | nil => cases broken
          | cons form forms => injection broken with key; cases key
        next quote after shown =>
        split at read
        · next isQuote =>
          obtain ⟨name, form, forms, rfl, _⟩ := readKey_named read
          rcases skipBlanks_start more lost with blank | ⟨d, others, visible, same⟩
          · rw [blank]
            exact .cut (.key _ _ _ _)
          rw [shown] at same
          injection same with same after
          rw [visible]
          dsimp only
          rw [if_pos (same.symm.trans isQuote)]
          exact below.member less each (after ▸ read)
        · injection read with broken _
          cases forms with
          | nil => cases broken
          | cons form forms => injection broken with key; cases key
      · injection read with broken _
        cases forms <;> cases broken

/-- Every start of a text is covered, whatever the steps. -/
theorem all : ∀ fuel : Nat, StartsCovered fuel := by
  intro fuel
  induction fuel with
  | zero =>
      constructor
      case value =>
        intro less form start lost rest verbal read
        injection read with broken _
        exact absurd broken.symm ofJson_ne_broken
      all_goals
        intro less forms start lost rest each read
        cases forms <;> cases read
  | succ fuel below =>
      exact ⟨below.value_succ, below.items_succ, below.moreItems_succ, below.members_succ,
        below.member_succ, below.moreMembers_succ⟩

end StartsCovered

/-- The start of a text is read as the whole value, if it holds the value, and else as the value
cut short, with nothing after it. -/
theorem readValue_start {fuel : Nat} {form : Json} (verbal : IsVerbal form)
    {start lost rest : List Char}
    (read : readValue fuel (start ++ lost) = (Reading.ofJson form, rest)) (less : Nat) :
    Covers (Reading.ofJson form) (Cut form) rest lost (readValue less start) :=
  (StartsCovered.all fuel).value less verbal read

end RouteAtlas.Json
