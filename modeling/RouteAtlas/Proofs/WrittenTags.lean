/-
Module: RouteAtlas.Proofs.WrittenTags
Purpose: What the scan for tags finds.  It takes one written tag after another off a text and
  ends where none stands; tags that were written out are found again, whatever follows them.
Main exports: Tags.IsKey, Tags.Spells, Tags.Opens, Tags.Rounds, Tags.writtenRun,
  Tags.parse_written
-/
import RouteAtlas.Types.Tags

namespace RouteAtlas.Tags

variable {text written value rest blanks key read : List Char} {entry : String × String}
  {entries : List (String × String)}

/-! ## Written tags -/

/-- A key that can be written: it is not empty and has neither blanks nor colons nor quotes. -/
def IsKey (key : String) : Prop :=
  key ≠ "" ∧ ∀ c ∈ key.toList, Text.isBlank c = false ∧ c ≠ ':' ∧ c ≠ '"'

theorem isKeyChar_iff {c : Char} :
    isKeyChar c = true ↔ Text.isBlank c = false ∧ c ≠ ':' ∧ c ≠ '"' := by
  simp [isKeyChar, and_assoc]

instance (key : String) : Decidable (IsKey key) :=
  decidable_of_iff (key ≠ "" ∧ key.toList.all isKeyChar = true) <| by
    simp only [IsKey, List.all_eq_true, isKeyChar_iff]

/-- A value and a written form of it.  What follows a backslash stands for itself; without one
neither a backslash nor a quote does. -/
inductive Spells : List Char → List Char → Prop where
  | nil : Spells [] []
  | plain {c : Char} {written value : List Char} (notBackslash : c ≠ '\\') (notQuote : c ≠ '"')
      (others : Spells written value) : Spells (c :: written) (c :: value)
  | escaped (c : Char) {written value : List Char} (others : Spells written value) :
      Spells ('\\' :: c :: written) (c :: value)

/-- A text that opens with a tag: blanks, a key, a colon and a value in quotes, and then the
rest of the text. -/
inductive Opens : List Char → String × String → List Char → Prop where
  | tag {blanks written : List Char} {key value : String}
      (blank : ∀ c ∈ blanks, Text.isBlank c = true) (isKey : IsKey key)
      (spells : Spells written value.toList) (rest : List Char) :
      Opens (blanks ++ (key.toList ++ ':' :: '"' :: (written ++ '"' :: rest))) (key, value) rest

/-- The rounds in which a text is read.  Each takes a tag off the text, and after the last one
there is no tag to take. -/
inductive Rounds : List Char → List (String × String) → Prop where
  | ends {text : List Char} (none : ∀ entry rest, ¬ Opens text entry rest) : Rounds text []
  | takes {text rest : List Char} {entry : String × String} {entries : List (String × String)}
      (opens : Opens text entry rest) (later : Rounds rest entries) :
      Rounds text (entry :: entries)

theorem IsKey.toList_eq_cons {key : String} (isKey : IsKey key) :
    ∃ first others, key.toList = first :: others ∧ Text.isBlank first = false ∧
      isKeyChar first = true ∧ ∀ c ∈ others, isKeyChar c = true := by
  obtain ⟨notEmpty, letters⟩ := isKey
  cases chars : key.toList with
  | nil => exact absurd (String.toList_eq_nil_iff.mp chars) notEmpty
  | cons first others =>
      rw [chars] at letters
      have isLetter : ∀ c ∈ first :: others, isKeyChar c = true := by
        intro c member
        exact isKeyChar_iff.mpr (letters c member)
      obtain ⟨ofFirst, ofOthers⟩ := List.forall_mem_cons.mp isLetter
      exact ⟨first, others, rfl, (letters first List.mem_cons_self).1, ofFirst, ofOthers⟩

theorem Opens.blank {c : Char} (isBlank : Text.isBlank c = true) (opens : Opens text entry rest) :
    Opens (c :: text) entry rest := by
  cases opens with
  | tag blank isKey spells rest =>
      exact .tag (List.forall_mem_cons.mpr ⟨isBlank, blank⟩) isKey spells rest

/-- A tag has at least a letter, a colon and two quotes. -/
theorem Opens.length_le (opens : Opens text entry rest) : rest.length + 4 ≤ text.length := by
  cases opens with
  | tag blank isKey spells rest =>
      obtain ⟨first, others, chars, _⟩ := isKey.toList_eq_cons
      simp only [chars, List.length_append, List.length_cons]
      omega

/-! ## One round -/

theorem scan_blanks (blank : ∀ c ∈ blanks, Text.isBlank c = true) (text : List Char) :
    scan .between (blanks ++ text) = scan .between text := by
  induction blanks with
  | nil => rfl
  | cons c blanks ih =>
      obtain ⟨first, others⟩ := List.forall_mem_cons.mp blank
      rw [List.cons_append, scan, if_pos first]
      exact ih others

theorem scan_key {letters : List Char} (isLetter : ∀ c ∈ letters, isKeyChar c = true)
    (read text : List Char) :
    scan (.key read) (letters ++ ':' :: text) = scan (.opened (letters.reverse ++ read)) text := by
  induction letters generalizing read with
  | nil => simp [scan]
  | cons c letters ih =>
      obtain ⟨first, others⟩ := List.forall_mem_cons.mp isLetter
      have notColon := (isKeyChar_iff.mp first).2.1
      rw [List.cons_append, scan, if_neg notColon, if_pos first, ih others]
      simp

theorem scan_value (spells : Spells written value) (key read rest : List Char) :
    scan (.value key read) (written ++ '"' :: rest) =
      (String.ofList key.reverse, String.ofList (read.reverse ++ value)) ::
        scan .between rest := by
  induction spells generalizing read with
  | nil => simp [scan]
  | plain notBackslash notQuote _ ih =>
      rw [List.cons_append, scan, if_neg notBackslash, if_neg notQuote, ih]
      simp
  | escaped c _ ih =>
      rw [List.cons_append, List.cons_append, scan, if_pos rfl, scan, ih]
      simp

/-- The scan takes off the tag with which a text opens. -/
theorem Opens.scan_eq (opens : Opens text entry rest) :
    scan .between text = entry :: scan .between rest := by
  cases opens with
  | tag blank isKey spells rest =>
      obtain ⟨first, others, chars, notBlank, ofFirst, ofOthers⟩ := isKey.toList_eq_cons
      rw [scan_blanks blank, chars, List.cons_append, scan, if_neg (by simp [notBlank]),
        if_pos ofFirst, scan_key ofOthers, scan, if_pos rfl, scan_value spells]
      simp [← chars]

/-- A text closes a value, of which a part has been read, and leaves a rest. -/
inductive Closes (key read : List Char) : List Char → String × String → List Char → Prop where
  | quote {written value : List Char} (spells : Spells written value) (rest : List Char) :
      Closes key read (written ++ '"' :: rest)
        (String.ofList key.reverse, String.ofList (read.reverse ++ value)) rest

theorem Closes.plain {c : Char} (notBackslash : c ≠ '\\') (notQuote : c ≠ '"')
    (closes : Closes key (c :: read) text entry rest) : Closes key read (c :: text) entry rest := by
  cases closes with
  | quote spells rest =>
      simpa using @Closes.quote key read _ _ (.plain notBackslash notQuote spells) rest

theorem Closes.escaped {c : Char} (closes : Closes key (c :: read) text entry rest) :
    Closes key read ('\\' :: c :: text) entry rest := by
  cases closes with
  | quote spells rest =>
      simpa using @Closes.quote key read _ _ (.escaped c spells) rest

mutual

/-- If the scan of a value finds a tag, the value is closed. -/
theorem closes_of_scan_value : ∀ {text read : List Char},
    scan (.value key read) text = entry :: entries →
      ∃ rest, Closes key read text entry rest ∧ entries = scan .between rest
  | [], _, found => nomatch found
  | c :: text, read, found => by
      rw [scan] at found
      split at found
      · next backslash =>
          rw [backslash]
          exact closes_of_scan_escaped found
      · next notBackslash =>
          split at found
          · next quote =>
              rw [quote]
              cases found
              exact ⟨text, by simpa using Closes.quote .nil text, rfl⟩
          · next notQuote =>
              obtain ⟨rest, closes, later⟩ := closes_of_scan_value found
              exact ⟨rest, closes.plain notBackslash notQuote, later⟩

/-- The same after a backslash. -/
theorem closes_of_scan_escaped : ∀ {text read : List Char},
    scan (.escaped key read) text = entry :: entries →
      ∃ rest, Closes key read ('\\' :: text) entry rest ∧ entries = scan .between rest
  | [], _, found => nomatch found
  | c :: text, read, found => by
      obtain ⟨rest, closes, later⟩ := closes_of_scan_value found
      exact ⟨rest, closes.escaped, later⟩

end

/-- If the scan of a key finds a tag, a colon and a value in quotes follow the key. -/
theorem closes_of_scan_key (found : scan (.key read) text = entry :: entries) :
    ∃ letters after rest, text = letters ++ ':' :: '"' :: after ∧
      (∀ c ∈ letters, isKeyChar c = true) ∧
      Closes (letters.reverse ++ read) [] after entry rest ∧ entries = scan .between rest := by
  induction text generalizing read with
  | nil => cases found
  | cons c text ih =>
      rw [scan] at found
      split at found
      · next colon =>
          rw [colon]
          cases text with
          | nil => cases found
          | cons quote text =>
              rw [scan] at found
              split at found
              · next isQuote =>
                  rw [isQuote]
                  obtain ⟨rest, closes, later⟩ := closes_of_scan_value found
                  exact ⟨[], text, rest, rfl, by simp, closes, later⟩
              · cases found
      · split at found
        · next isLetter =>
            obtain ⟨letters, after, rest, rfl, areLetters, closes, later⟩ := ih found
            exact ⟨c :: letters, after, rest, rfl, List.forall_mem_cons.mpr ⟨isLetter, areLetters⟩,
              by simpa using closes, later⟩
        · cases found

/-- Where the scan finds a tag, the text opens with it. -/
theorem opens_of_scan (found : scan .between text = entry :: entries) :
    ∃ rest, Opens text entry rest ∧ entries = scan .between rest := by
  induction text with
  | nil => cases found
  | cons c text ih =>
      rw [scan] at found
      split at found
      · next isBlank =>
          obtain ⟨rest, opens, later⟩ := ih found
          exact ⟨rest, opens.blank isBlank, later⟩
      · split at found
        · next isLetter =>
            obtain ⟨letters, after, rest, rfl, areLetters, closes, later⟩ := closes_of_scan_key found
            have areKey : ∀ letter ∈ c :: letters, isKeyChar letter = true :=
              List.forall_mem_cons.mpr ⟨isLetter, areLetters⟩
            have isKey : IsKey (String.ofList (c :: letters)) := by
              refine ⟨by simp, fun letter member => isKeyChar_iff.mp ?_⟩
              rw [String.toList_ofList] at member
              exact areKey letter member
            refine ⟨rest, ?_, later⟩
            cases closes with
            | @quote written value spells rest =>
                have opens := @Opens.tag [] written _ (String.ofList value) (by simp) isKey
                  (by simpa using spells) rest
                simpa using opens
        · cases found

/-! ## All rounds -/

/-- However a text begins, it is read in finitely many rounds. -/
theorem rounds_scan (text : List Char) : Rounds text (scan .between text) := by
  induction size : text.length using Nat.strongRecOn generalizing text with
  | ind bound ih =>
      subst size
      cases found : scan .between text with
      | nil =>
          apply Rounds.ends
          intro entry rest opens
          rw [opens.scan_eq] at found
          cases found
      | cons entry entries =>
          obtain ⟨rest, opens, rfl⟩ := opens_of_scan found
          have shorter := opens.length_le
          exact .takes opens (ih rest.length (by omega) rest rfl)

/-- There is only one way to read a text. -/
theorem Rounds.eq_scan (rounds : Rounds text entries) : entries = scan .between text := by
  induction rounds with
  | @ends text none =>
      cases found : scan .between text with
      | nil => rfl
      | cons entry entries =>
          obtain ⟨rest, opens, _⟩ := opens_of_scan found
          exact absurd opens (none entry rest)
  | takes opens _ ih => rw [opens.scan_eq, ih]

theorem Rounds.isKey (rounds : Rounds text entries) : ∀ entry ∈ entries, IsKey entry.1 := by
  induction rounds with
  | ends none => simp
  | takes opens _ ih =>
      cases opens with
      | tag blank isKey spells rest => exact List.forall_mem_cons.mpr ⟨isKey, ih⟩

theorem Rounds.length_le (rounds : Rounds text entries) : 4 * entries.length ≤ text.length := by
  induction rounds with
  | ends none => simp
  | takes opens _ ih =>
      have shorter := opens.length_le
      rw [List.length_cons]
      omega

/-! ## Tags that were written -/

theorem spells_encode (value : List Char) : Spells (value.flatMap encodeChar) value := by
  induction value with
  | nil => exact .nil
  | cons c value ih =>
      rw [List.flatMap_cons, encodeChar]
      split
      · exact .escaped c ih
      · next plain =>
          rw [not_or] at plain
          exact .plain plain.1 plain.2 ih

theorem opens_encodeEntry (blank : ∀ c ∈ blanks, Text.isBlank c = true) (isKey : IsKey entry.1)
    (rest : List Char) : Opens (blanks ++ encodeEntry entry ++ rest) entry rest := by
  have opens := Opens.tag blank isKey (spells_encode entry.2.toList) rest
  simpa [encodeEntry] using opens

/-- Tags that are written one after another, each of them after blanks. -/
def writtenRun (tags : List (String × String × String)) : String :=
  String.ofList (tags.flatMap fun tag => tag.1.toList ++ encodeEntry tag.2)

theorem parse_writtenRun {tags : List (String × String × String)}
    (areTags : ∀ tag ∈ tags, Text.isBlankText tag.1 = true ∧ IsKey tag.2.1) (tail : String) :
    (parse (writtenRun tags ++ tail)).entries = tags.map Prod.snd ++ (parse tail).entries := by
  simp only [parse, String.toList_append]
  induction tags with
  | nil => rfl
  | cons tag tags ih =>
      obtain ⟨⟨blank, isKey⟩, others⟩ := List.forall_mem_cons.mp areTags
      have opens := opens_encodeEntry (List.all_eq_true.mp blank) isKey
        ((writtenRun tags).toList ++ tail.toList)
      have found := opens.scan_eq
      rw [ih others] at found
      simpa [writtenRun] using found

theorem eq_of_entries_eq {tags others : Tags} (same : tags.entries = others.entries) :
    tags = others := by
  cases tags
  cases others
  cases same
  rfl

theorem encode_eq_writtenRun (tags : Tags) :
    tags.encode = writtenRun (tags.entries.map fun entry => ("", entry)) := by
  simp [encode, writtenRun, List.flatMap_map]

/-- Tags that are written one after another, with any blanks before each of them, are found
again, and after them whatever is found in the text that follows.  A text of any kind is read in
rounds, of which there are finitely many.  All keys that are found can be written, so what was
found in a text is found again once it is written out. -/
theorem parse_written :
    (∀ (tags : List (String × String × String)) (tail : String),
      (∀ tag ∈ tags, Text.isBlankText tag.1 = true ∧ IsKey tag.2.1) →
        (parse (writtenRun tags ++ tail)).entries = tags.map Prod.snd ++ (parse tail).entries) ∧
    ∀ raw : String,
      (∀ entries, Rounds raw.toList entries ↔ entries = (parse raw).entries) ∧
      4 * (parse raw).entries.length ≤ raw.length ∧
      (∀ entry ∈ (parse raw).entries, IsKey entry.1) ∧
      parse (encode (parse raw)) = parse raw := by
  constructor
  · intro tags tail areTags
    exact parse_writtenRun areTags tail
  · intro raw
    have rounds : Rounds raw.toList (parse raw).entries := rounds_scan raw.toList
    refine ⟨fun entries => ⟨Rounds.eq_scan, ?_⟩, ?_, rounds.isKey, ?_⟩
    · rintro rfl
      exact rounds
    · rw [← String.length_toList]
      exact rounds.length_le
    · have areTags : ∀ tag ∈ (parse raw).entries.map fun entry => ("", entry),
          Text.isBlankText tag.1 = true ∧ IsKey tag.2.1 :=
        List.forall_mem_map.mpr fun entry member => ⟨rfl, rounds.isKey entry member⟩
      have nothing : (parse "").entries = [] := rfl
      have found := parse_writtenRun areTags ""
      rw [String.append_empty, ← encode_eq_writtenRun, nothing, List.append_nil, List.map_map]
        at found
      apply eq_of_entries_eq
      simpa [Function.comp_def] using found

/-- Two tags, and after them a text that is none. -/
theorem parse_written_broken :
    (parse (writtenRun [("", "json", "say \"hi\""), (" \t", "größe", "a\\b:c")] ++
      " broken as:\"x\"")).entries = [("json", "say \"hi\""), ("größe", "a\\b:c")] := by
  have areTags : ∀ tag ∈ [("", "json", "say \"hi\""), (" \t", "größe", "a\\b:c")],
      Text.isBlankText tag.1 = true ∧ IsKey tag.2.1 := by decide
  have nothing : (parse " broken as:\"x\"").entries = [] := by decide
  rw [parse_written.1 _ " broken as:\"x\"" areTags, nothing]
  rfl

end RouteAtlas.Tags
