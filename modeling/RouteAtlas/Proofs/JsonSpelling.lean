/-
Module: RouteAtlas.Proofs.JsonSpelling
Purpose: The ways to write a text between the quotes of a string literal, and that the reader
  takes each of them for the text.
Main exports: Json.Spells, Json.IsBody, Json.Spells.scan, Json.IsBody.scan,
  Json.spells_escaped
-/
import RouteAtlas.Json.Printer
import RouteAtlas.Json.Reader

namespace RouteAtlas.Json

/-! ## Grammar -/

/-- The letters that may follow a backslash, with the characters that they stand for. -/
def shortEscapes : List (Char × Char) :=
  [('"', '"'), ('\\', '\\'), ('/', '/'), ('b', Char.ofNat 8), ('f', Char.ofNat 12), ('n', '\n'),
    ('r', '\r'), ('t', '\t')]

/-- Four hexadecimal digits and the number that they denote. -/
inductive HexCode : List Char → Nat → Prop where
  | digits {a b c d : Char} {i j k l : Nat} (first : hexDigit? a = some i)
      (second : hexDigit? b = some j) (third : hexDigit? c = some k)
      (fourth : hexDigit? d = some l) :
      HexCode [a, b, c, d] (16 * (16 * (16 * i + j) + k) + l)

/-- A number that is the first half of a pair. -/
def IsHighHalf (code : Nat) : Prop :=
  0xD800 ≤ code ∧ code ≤ 0xDBFF

/-- A number that is the second half of a pair. -/
def IsLowHalf (code : Nat) : Prop :=
  0xDC00 ≤ code ∧ code ≤ 0xDFFF

/-- What stands between the quotes of a literal, and the text that it denotes.  A character
beyond the first 65536 may be written as a pair of halves; a half by itself denotes nothing. -/
inductive Spells : List Char → List Char → Prop where
  | nil : Spells [] []
  | plain {c : Char} {body text : List Char} (notQuote : c ≠ '"') (notBackslash : c ≠ '\\')
      (notControl : 0x20 ≤ c.toNat) (others : Spells body text) : Spells (c :: body) (c :: text)
  | short {letter c : Char} {body text : List Char} (known : (letter, c) ∈ shortEscapes)
      (others : Spells body text) : Spells ('\\' :: letter :: body) (c :: text)
  | code {digits body text : List Char} {code : Nat} (hex : HexCode digits code)
      (notHigh : ¬ IsHighHalf code) (notLow : ¬ IsLowHalf code) (others : Spells body text) :
      Spells ('\\' :: 'u' :: (digits ++ body)) (Char.ofNat code :: text)
  | pair {first second body text : List Char} {high low : Nat} (hexHigh : HexCode first high)
      (hexLow : HexCode second low) (isHigh : IsHighHalf high) (isLow : IsLowHalf low)
      (others : Spells body text) :
      Spells ('\\' :: 'u' :: (first ++ '\\' :: 'u' :: (second ++ body)))
        (pairChar high low :: text)

/-- What may stand between the quotes of a literal, also of one that denotes no text. -/
inductive IsBody : List Char → Prop where
  | nil : IsBody []
  | plain {c : Char} {body : List Char} (notQuote : c ≠ '"') (notBackslash : c ≠ '\\')
      (notControl : 0x20 ≤ c.toNat) (others : IsBody body) : IsBody (c :: body)
  | short {letter c : Char} {body : List Char} (known : (letter, c) ∈ shortEscapes)
      (others : IsBody body) : IsBody ('\\' :: letter :: body)
  | code {digits body : List Char} {code : Nat} (hex : HexCode digits code)
      (others : IsBody body) : IsBody ('\\' :: 'u' :: (digits ++ body))

/-! ## Steps of the scan -/

-- At a known character a scan, and a reading, takes the step that the definition gives there.
attribute [local simp] scanString readValue skipBlanks

/-- What a scan does at one character, with whatever text after it: it goes on in some state,
closes the string, or breaks.  A scan that has met a flaw never recovers from it. -/
inductive ScanStep (sound : Bool) (scan : List Char → Scanned) : Prop where
  | goesOn (state : ScanState) (still : Bool) (done : List Char)
      (lasting : still = true → sound = true)
      (same : ∀ rest, scan rest = scanString state still done rest)
  | closes (text : List Char) (flawless : sound = true) (same : ∀ rest, scan rest = .text text rest)
  | flawed (same : ∀ rest, scan rest = .flawed rest)
  | breaks (same : ∀ rest, ∃ used skipped, scan rest = .broken used skipped)

/-- How a scan goes on after the letter of an escape. -/
def afterLetter (c : Char) (sound : Bool) (done rest : List Char) : Scanned :=
  if c = 'u' then scanString (.hex 0 0 none) sound done rest
  else match simpleEscape? c with
    | some char => scanString .plain sound (char :: done) rest
    | none => .broken .malformed .malformed

theorem scanString_step (state : ScanState) (sound : Bool) (done : List Char) (c : Char) :
    ScanStep sound fun rest => scanString state sound done (c :: rest) := by
  have outside : ∀ still : Bool, (still = true → sound = true) → ScanStep sound fun rest =>
      if c = '"' then if still then .text done.reverse rest else .flawed rest
      else if c = '\\' then scanString .escape still done rest
      else if c.toNat < 0x20 then .broken .malformed .malformed
      else scanString .plain still (c :: done) rest := by
    intro still lasting
    split
    · split
      · next flawless => exact .closes _ (lasting flawless) fun _ => rfl
      · exact .flawed fun _ => rfl
    split
    · exact .goesOn _ _ _ lasting fun _ => rfl
    split
    · exact .breaks fun _ => ⟨_, _, rfl⟩
    · exact .goesOn _ _ _ lasting fun _ => rfl
  have escaped : ∀ still : Bool, (still = true → sound = true) →
      ScanStep sound (afterLetter c still done) := by
    intro still lasting
    unfold afterLetter
    split
    · exact .goesOn _ _ _ lasting fun _ => rfl
    split
    · exact .goesOn _ _ _ lasting fun _ => rfl
    · exact .breaks fun _ => ⟨_, _, rfl⟩
  have never : (false = true → sound = true) := by simp
  cases state with
  | plain => simpa only [scanString] using outside sound id
  | escape =>
      simp only [scanString]
      exact escaped sound id
  | paired high =>
      by_cases backslash : c = '\\'
      · exact .goesOn (.pairedEscape high) sound done id fun _ => by simp [backslash]
      · simpa only [scanString, if_neg backslash] using outside false never
  | pairedEscape high =>
      by_cases code : c = 'u'
      · exact .goesOn (.hex 0 0 (some high)) sound done id fun _ => by simp [code]
      · have step := escaped false never
        unfold afterLetter at step
        simp only [scanString, if_neg code] at step ⊢
        exact step
  | hex count value high =>
      simp only [scanString]
      split
      · exact .breaks fun _ => ⟨_, _, rfl⟩
      split
      · exact .goesOn _ _ _ id fun _ => rfl
      cases high with
      | some first =>
          dsimp only
          split
          · exact .goesOn _ _ _ id fun _ => rfl
          · exact .goesOn _ _ _ never fun _ => rfl
      | none =>
          dsimp only
          split
          · split
            · exact .goesOn _ _ _ id fun _ => rfl
            · exact .goesOn _ _ _ id fun _ => rfl
          split
          · exact .goesOn _ _ _ never fun _ => rfl
          · exact .goesOn _ _ _ id fun _ => rfl

/-- A string that is closed is closed whatever follows. -/
theorem scanString_append {state : ScanState} {sound : Bool} {done s left : List Char}
    (more : List Char) :
    (∀ text, scanString state sound done s = .text text left →
      scanString state sound done (s ++ more) = .text text (left ++ more)) ∧
    (scanString state sound done s = .flawed left →
      scanString state sound done (s ++ more) = .flawed (left ++ more)) := by
  induction s generalizing state sound done with
  | nil => simp
  | cons c s ih =>
      rw [List.cons_append]
      cases scanString_step state sound done c with
      | goesOn next still done _ same =>
          rw [same, same]
          exact ih
      | closes closed _ same =>
          rw [same, same]
          simp
      | flawed same =>
          rw [same, same]
          simp
      | breaks same =>
          obtain ⟨used, skipped, broken⟩ := same s
          rw [broken]
          simp

section Scan

variable {c letter : Char} {digits body text rest done : List Char} {code : Nat} {sound : Bool}
  {high : Option Nat}

theorem simpleEscape?_short (known : (letter, c) ∈ shortEscapes) :
    simpleEscape? letter = some c ∧ letter ≠ 'u' := by
  have all : ∀ entry ∈ shortEscapes, simpleEscape? entry.1 = some entry.2 ∧ entry.1 ≠ 'u' := by
    decide
  exact all _ known

theorem scanString_plain (notQuote : c ≠ '"') (notBackslash : c ≠ '\\')
    (notControl : 0x20 ≤ c.toNat) (sound : Bool) (done rest : List Char) :
    scanString .plain sound done (c :: rest) = scanString .plain sound (c :: done) rest := by
  have visible : ¬ c.toNat < 32 := by omega
  simp [notQuote, notBackslash, visible]

theorem scanString_short (known : (letter, c) ∈ shortEscapes) (sound : Bool)
    (done rest : List Char) :
    scanString .plain sound done ('\\' :: letter :: rest) =
      scanString .plain sound (c :: done) rest := by
  obtain ⟨stands, notCode⟩ := simpleEscape?_short known
  simp [stands, notCode]

/-- How a scan goes on after the four digits of an escape. -/
def afterCode (code : Nat) (high : Option Nat) (sound : Bool) (done rest : List Char) :
    Scanned :=
  match high with
  | some first =>
      if 0xDC00 ≤ code && code ≤ 0xDFFF then
        scanString .plain sound (pairChar first code :: done) rest
      else scanString .plain false done rest
  | none =>
      if 0xD800 ≤ code && code ≤ 0xDBFF then
        if sound then scanString (.paired code) sound done rest
        else scanString .plain sound done rest
      else if 0xDC00 ≤ code && code ≤ 0xDFFF then scanString .plain false done rest
      else scanString .plain sound (Char.ofNat code :: done) rest

theorem scanString_hex (hex : HexCode digits code) (high : Option Nat) (sound : Bool)
    (done rest : List Char) :
    scanString (.hex 0 0 high) sound done (digits ++ rest) =
      afterCode code high sound done rest := by
  obtain ⟨first, second, third, fourth⟩ := hex
  simp only [List.cons_append, List.nil_append]
  rw [scanString, first]
  simp only [Nat.mul_zero, Nat.zero_add, Nat.reduceLT, reduceIte]
  rw [scanString, second]
  simp only [Nat.reduceAdd, Nat.reduceLT, reduceIte]
  rw [scanString, third]
  simp only [Nat.reduceAdd, Nat.reduceLT, reduceIte]
  rw [scanString, fourth]
  rfl

theorem scanString_code (hex : HexCode digits code) (sound : Bool) (done rest : List Char) :
    scanString .plain sound done ('\\' :: 'u' :: (digits ++ rest)) =
      afterCode code none sound done rest := by
  rw [← scanString_hex hex]
  simp

theorem scanString_paired_code (hex : HexCode digits code) (first : Nat) (sound : Bool)
    (done rest : List Char) :
    scanString (.paired first) sound done ('\\' :: 'u' :: (digits ++ rest)) =
      afterCode code (some first) sound done rest := by
  rw [← scanString_hex hex]
  simp

/-! ## Bodies -/

/-- What stands between the quotes is read as the text that it denotes, whatever follows. -/
theorem Spells.scan (spells : Spells body text) (done rest : List Char) :
    scanString .plain true done (body ++ '"' :: rest) = .text (done.reverse ++ text) rest := by
  induction spells generalizing done with
  | nil => simp
  | plain notQuote notBackslash notControl _ ih =>
      rw [List.cons_append, scanString_plain notQuote notBackslash notControl, ih]
      simp
  | short known _ ih =>
      rw [List.cons_append, List.cons_append, scanString_short known, ih]
      simp
  | code hex notHigh notLow _ ih =>
      rw [List.cons_append, List.cons_append, List.append_assoc, scanString_code hex]
      have high : ¬ (0xD800 ≤ _ ∧ _ ≤ 0xDBFF) := notHigh
      have low : ¬ (0xDC00 ≤ _ ∧ _ ≤ 0xDFFF) := notLow
      simp only [afterCode, Bool.and_eq_true, decide_eq_true_eq, high, low, if_false, ih]
      simp
  | pair hexHigh hexLow isHigh isLow _ ih =>
      have shape : ∀ first second body : List Char,
          '\\' :: 'u' :: (first ++ '\\' :: 'u' :: (second ++ body)) ++ '"' :: rest =
            '\\' :: 'u' :: (first ++ '\\' :: 'u' :: (second ++ (body ++ '"' :: rest))) := by
        simp
      have high : 0xD800 ≤ _ ∧ _ ≤ 0xDBFF := isHigh
      have low : 0xDC00 ≤ _ ∧ _ ≤ 0xDFFF := isLow
      rw [shape, scanString_code hexHigh]
      simp only [afterCode, Bool.and_eq_true, decide_eq_true_eq, high, and_self, if_true]
      rw [scanString_paired_code hexLow]
      simp only [afterCode, Bool.and_eq_true, decide_eq_true_eq, low, and_self, if_true, ih]
      simp

theorem Spells.readKey_eq {key : String} (spells : Spells body key.toList) (rest : List Char) :
    readKey (body ++ '"' :: rest) = (.name key, rest) := by
  rw [readKey, spells.scan]
  simp

theorem Spells.readValue_eq (spells : Spells body text) (fuel : Nat) (rest : List Char) :
    readValue (fuel + 1) ('"' :: (body ++ '"' :: rest)) = (.string (String.ofList text), rest) := by
  simp [spells.scan]

/-- A string is closed with a text or without one. -/
def IsClosed (scanned : Scanned) (rest : List Char) : Prop :=
  (∃ text, scanned = .text text rest) ∨ scanned = .flawed rest

/-- Whatever may stand between the quotes is read up to the second one, also after the first
half of a pair. -/
theorem IsBody.scan (isBody : IsBody body) :
    (∀ sound done rest, IsClosed (scanString .plain sound done (body ++ '"' :: rest)) rest) ∧
      ∀ first sound done rest,
        IsClosed (scanString (.paired first) sound done (body ++ '"' :: rest)) rest := by
  induction isBody with
  | nil =>
      constructor
      · intro sound done rest
        cases sound
        · exact .inr (by simp)
        · exact .inl ⟨done.reverse, by simp⟩
      · intro first sound done rest
        exact .inr (by simp)
  | @plain c body notQuote notBackslash notControl _ ih =>
      constructor
      · intro sound done rest
        rw [List.cons_append, scanString_plain notQuote notBackslash notControl]
        exact ih.1 sound _ rest
      · intro first sound done rest
        have visible : ¬ c.toNat < 32 := by omega
        have next : scanString (.paired first) sound done (c :: (body ++ '"' :: rest)) =
            scanString .plain false (c :: done) (body ++ '"' :: rest) := by
          simp [notQuote, notBackslash, visible]
        rw [List.cons_append, next]
        exact ih.1 false _ rest
  | @short letter c body known _ ih =>
      constructor
      · intro sound done rest
        rw [List.cons_append, List.cons_append, scanString_short known]
        exact ih.1 sound _ rest
      · intro first sound done rest
        obtain ⟨stands, notCode⟩ := simpleEscape?_short known
        have next : scanString (.paired first) sound done
            ('\\' :: letter :: (body ++ '"' :: rest)) =
              scanString .plain false (c :: done) (body ++ '"' :: rest) := by
          simp [stands, notCode]
        rw [List.cons_append, List.cons_append, next]
        exact ih.1 false _ rest
  | @code digits body code hex _ ih =>
      -- Every way in which the scan goes on is one of the two that are known to end well.
      have goesOn : ∀ high sound done rest,
          IsClosed (afterCode code high sound done (body ++ '"' :: rest)) rest := by
        intro high sound done rest
        unfold afterCode
        split
        · split
          · exact ih.1 _ _ _
          · exact ih.1 _ _ _
        · split
          · split
            · exact ih.2 _ _ _ _
            · exact ih.1 _ _ _
          · split
            · exact ih.1 _ _ _
            · exact ih.1 _ _ _
      constructor
      · intro sound done rest
        rw [List.cons_append, List.cons_append, List.append_assoc, scanString_code hex]
        exact goesOn none sound done rest
      · intro first sound done rest
        rw [List.cons_append, List.cons_append, List.append_assoc, scanString_paired_code hex]
        exact goesOn (some first) sound done rest

end Scan

/-! ## Escaped texts -/

theorem Spells.append {one other text more : List Char} (first : Spells one text)
    (second : Spells other more) : Spells (one ++ other) (text ++ more) := by
  induction first with
  | nil => exact second
  | plain notQuote notBackslash notControl _ ih =>
      exact .plain notQuote notBackslash notControl ih
  | short known _ ih => exact .short known ih
  | @code digits body text code hex notHigh notLow _ ih =>
      have shape : '\\' :: 'u' :: (digits ++ body) ++ other =
          '\\' :: 'u' :: (digits ++ (body ++ other)) := by
        simp
      rw [shape]
      exact .code hex notHigh notLow ih
  | @pair first second body text high low hexHigh hexLow isHigh isLow _ ih =>
      have shape : '\\' :: 'u' :: (first ++ '\\' :: 'u' :: (second ++ body)) ++ other =
          '\\' :: 'u' :: (first ++ '\\' :: 'u' :: (second ++ (body ++ other))) := by
        simp
      rw [shape]
      exact .pair hexHigh hexLow isHigh isLow ih

/-- A text without quotes, backslashes and controls spells itself. -/
theorem spells_plain {text : List Char}
    (plain : ∀ c ∈ text, c ≠ '"' ∧ c ≠ '\\' ∧ 0x20 ≤ c.toNat) : Spells text text := by
  induction text with
  | nil => exact .nil
  | cons c text ih =>
      obtain ⟨⟨notQuote, notBackslash, notControl⟩, others⟩ := List.forall_mem_cons.mp plain
      exact .plain notQuote notBackslash notControl (ih others)

theorem Spells.isBody {body text : List Char} (spells : Spells body text) : IsBody body := by
  induction spells with
  | nil => exact .nil
  | plain notQuote notBackslash notControl _ ih => exact .plain notQuote notBackslash notControl ih
  | short known _ ih => exact .short known ih
  | code hex _ _ _ ih => exact .code hex ih
  | pair hexHigh hexLow _ _ _ ih => exact .code hexHigh (.code hexLow ih)

/-- A text is spelled by writing one character after another. -/
theorem spells_flatMap {write : Char → List Char} (each : ∀ c, Spells (write c) [c])
    (text : List Char) : Spells (text.flatMap write) text := by
  induction text with
  | nil => exact .nil
  | cons c text ih => exact (each c).append ih

/-- The printer's digits are the digits that the reader knows. -/
theorem hexDigit?_digitChar {n : Nat} (small : n < 16) :
    hexDigit? (Nat.digitChar n) = some n := by
  have all : ∀ n < 16, hexDigit? (Nat.digitChar n) = some n := by decide
  exact all n small

theorem spells_short {letter c : Char} (known : (letter, c) ∈ shortEscapes) :
    Spells ['\\', letter] [c] :=
  .short known .nil

/-- A character is spelled by the four digits of its number. -/
theorem spells_code {c : Char} {digits : List Char} (hex : HexCode digits c.toNat) :
    Spells ('\\' :: 'u' :: digits) [c] := by
  have valid : c.toNat < 0xD800 ∨ 0xDFFF < c.toNat ∧ c.toNat < 0x110000 := c.valid
  have notHigh : ¬ IsHighHalf c.toNat := by
    rintro ⟨low, high⟩
    omega
  have notLow : ¬ IsLowHalf c.toNat := by
    rintro ⟨low, high⟩
    omega
  have spells := Spells.code hex notHigh notLow .nil
  rwa [Char.ofNat_toNat, List.append_nil] at spells

/-- A character as the printer writes it. -/
theorem spells_escapeChar (c : Char) : Spells (escapeChar c) [c] := by
  have self : Char.ofNat c.toNat = c := Char.ofNat_toNat c
  unfold escapeChar
  split
  · next quote => exact spells_short (by rw [quote]; decide)
  split
  · next backslash => exact spells_short (by rw [backslash]; decide)
  split
  · next backspace => exact spells_short (by rw [← self, backspace]; decide)
  split
  · next formFeed => exact spells_short (by rw [← self, formFeed]; decide)
  split
  · next lineFeed => exact spells_short (by rw [lineFeed]; decide)
  split
  · next carriageReturn => exact spells_short (by rw [carriageReturn]; decide)
  split
  · next tab => exact spells_short (by rw [tab]; decide)
  split
  · next control =>
    have hex := HexCode.digits (by decide : hexDigit? '0' = some 0)
      (by decide : hexDigit? '0' = some 0)
      (hexDigit?_digitChar (by omega : c.toNat / 16 < 16))
      (hexDigit?_digitChar (by omega : c.toNat % 16 < 16))
    have number : 16 * (16 * (16 * 0 + 0) + c.toNat / 16) + c.toNat % 16 = c.toNat := by omega
    rw [number] at hex
    exact spells_code hex
  · next notQuote notBackslash _ _ _ _ _ notControl =>
    exact .plain notQuote notBackslash (by omega) .nil

/-- A text as the printer writes it. -/
theorem spells_escaped (text : List Char) : Spells (text.flatMap escapeChar) text :=
  spells_flatMap spells_escapeChar text

end RouteAtlas.Json
