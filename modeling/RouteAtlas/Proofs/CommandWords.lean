/-
Module: RouteAtlas.Proofs.CommandWords
Purpose: Every command can be asked for: its values, written as options, are read back as
  they were.
Main exports: CommandLine.writtenWords, CommandLine.readOptions_written, Command.words,
  Command.parse_words
-/
import Mathlib.Data.List.Basic
import RouteAtlas.CommandLine.Arguments
import RouteAtlas.Proofs.Fallible

namespace RouteAtlas

/-! ## Options -/

namespace CommandLine

/-- An option together with its value in a single word. -/
def ValueOption.word (option : ValueOption) (value : String) : String :=
  "--" ++ option.long ++ "=" ++ value

/-- The options that have values, each in a word of its own. -/
def writtenWords (written : List (ValueOption × Option String)) : List String :=
  written.filterMap fun entry => entry.2.map entry.1.word

variable {options : List ValueOption} {option : ValueOption} {value : String}
  {given after : Given}

/-- Options that can be told apart by their long names, in which no value starts. -/
structure AreNamed (options : List ValueOption) : Prop where
  apart : (options.map ValueOption.long).Nodup
  found : ∀ option ∈ options, options.find? (·.long == option.long) = some option
  plain : ∀ option ∈ options, '=' ∉ option.long.toList

theorem ValueOption.toList_word (option : ValueOption) (value : String) :
    (option.word value).toList = '-' :: '-' :: (option.long.toList ++ '=' :: value.toList) := by
  simp [word, String.toList_append]

theorem readLong_named (named : AreNamed options) (known : option ∈ options) :
    readLong options (option.long.toList ++ '=' :: value.toList) =
      .ok (some (option, some value)) := by
  have split : splitLong (option.long.toList ++ '=' :: value.toList) =
      (option.long, some value) := by
    simp [splitLong, Text.breakAt_append (named.plain option known)]
  unfold readLong
  rw [split]
  split
  · next same => cases (Prod.mk.inj same).2
  · next same => cases (Prod.mk.inj same).2
  · next same =>
      cases same
      rw [named.found option known]

/-- The word of an option gives the option its value. -/
theorem readOptions_word (named : AreNamed options) (known : option ∈ options)
    (taken : option.give value given = .ok after) (rest : List String) :
    readOptions options given (option.word value :: rest) = readOptions options after rest := by
  have letters := option.toList_word value
  have read : readWord options (option.word value) = .ok (some (option, some value)) := by
    simp only [readWord, letters, readLong_named named known]
  -- Two dashes alone would end the options.
  have notEnd : option.word value ≠ "--" := by
    intro same
    have lengths := congrArg String.length same
    have two : "--".length = 2 := rfl
    rw [← String.length_toList, letters, two] at lengths
    simp at lengths
  rw [readOptions]
  · simp only [read]
    rw [taken]
    rfl
  · exact fun same _ => notEnd same

theorem ValueOption.give_eq_ok (fits : value = "" → option.mayBeEmpty = true)
    (fresh : given.lookup option.long = none) :
    option.give value given = .ok ((option.long, value) :: given) := by
  have notBlank : ¬ (value = "" ∧ (!option.mayBeEmpty) = true) := by
    rintro ⟨blank, wanted⟩
    simp [fits blank] at wanted
  have notGiven : ¬ (given.lookup option.long).isSome = true := by simp [fresh]
  rw [give, if_neg notBlank, if_neg notGiven]

/-- Options that are written out are read back, each with the value that it was written
with.  What was given before stays. -/
theorem readOptions_written {written : List (ValueOption × Option String)}
    (named : AreNamed options) (known : ∀ entry ∈ written, entry.1 ∈ options)
    (names : (written.map (·.1.long)).Nodup)
    (fresh : ∀ entry ∈ written, given.lookup entry.1.long = none)
    (fits : ∀ entry ∈ written, entry.2 = some "" → entry.1.mayBeEmpty = true) :
    ∃ after, readOptions options given (writtenWords written) = .ok after ∧
      (∀ entry ∈ written, after.lookup entry.1.long = entry.2) ∧
      ∀ name, name ∉ written.map (·.1.long) → after.lookup name = given.lookup name := by
  induction written generalizing given with
  | nil => exact ⟨given, by rw [writtenWords]; rfl, by simp, fun _ _ => rfl⟩
  | cons entry rest ih =>
      obtain ⟨option, value⟩ := entry
      obtain ⟨apart, namesRest⟩ := List.nodup_cons.mp names
      obtain ⟨freshHere, freshRest⟩ := List.forall_mem_cons.mp fresh
      obtain ⟨knownHere, knownRest⟩ := List.forall_mem_cons.mp known
      obtain ⟨fitsHere, fitsRest⟩ := List.forall_mem_cons.mp fits
      cases value with
      | none =>
          obtain ⟨after, read, values, others⟩ := ih knownRest namesRest freshRest fitsRest
          refine ⟨after, read, List.forall_mem_cons.mpr ⟨?_, values⟩, fun name absent => ?_⟩
          · rw [others _ apart]
            exact freshHere
          · exact others name fun member => absent (List.mem_cons_of_mem _ member)
      | some value =>
          have taken : option.give value given = .ok ((option.long, value) :: given) :=
            ValueOption.give_eq_ok (fun blank => fitsHere (congrArg some blank)) freshHere
          have freshAfter : ∀ entry ∈ rest,
              ((option.long, value) :: given).lookup entry.1.long = none := by
            intro entry member
            have differs : entry.1.long ≠ option.long := by
              intro same
              exact apart (List.mem_map.mpr ⟨entry, member, same⟩)
            rw [List.lookup_cons, beq_eq_false_iff_ne.mpr differs]
            exact freshRest entry member
          obtain ⟨after, read, values, others⟩ := ih knownRest namesRest freshAfter fitsRest
          refine ⟨after, ?_, List.forall_mem_cons.mpr ⟨?_, values⟩, fun name absent => ?_⟩
          · exact (readOptions_word named knownHere taken _).trans read
          · rw [others _ apart]
            simp
          · rw [List.map_cons, List.mem_cons, not_or] at absent
            rw [others name absent.2, List.lookup_cons, beq_eq_false_iff_ne.mpr absent.1]

/-- Options that are all written out, with or without values, are read back. -/
theorem readOptions_zip {values : List (Option String)} (named : AreNamed options)
    (lengths : options.length ≤ values.length)
    (fits : ∀ entry ∈ options.zip values, entry.2 = some "" → entry.1.mayBeEmpty = true) :
    ∃ given, readOptions options [] (writtenWords (options.zip values)) = .ok given ∧
      ∀ entry ∈ options.zip values, given.lookup entry.1.long = entry.2 := by
  have names : ((options.zip values).map (·.1.long)).Nodup := by
    have same := congrArg (List.map ValueOption.long) (List.map_fst_zip lengths)
    rw [List.map_map] at same
    exact same ▸ named.apart
  have fresh : ∀ entry ∈ options.zip values, ([] : Given).lookup entry.1.long = none :=
    fun _ _ => rfl
  obtain ⟨given, read, taken, _⟩ := readOptions_written named
    (fun entry member => (List.of_mem_zip member).1) names fresh fits
  exact ⟨given, read, taken⟩

end CommandLine

/-! ## Commands -/

namespace Command

open CommandLine Fallible

/-- The name of a command. -/
def name : Command → String
  | .render .. => "render"
  | .openapi .. => "openapi"
  | .symbols _ => "symbols"
  | .schema => "schema"

/-- The options of a command with the values that it has for them. -/
def written : Command → List (ValueOption × Option String)
  | .render tree settings template output =>
      renderOptions.zip [some tree, settings, template, output]
  | .openapi tree settings overrides =>
      openapiOptions.zip [some tree, settings, overrides.title, overrides.version,
        overrides.serverUrl, overrides.output]
  | .symbols tree => [treeOption].zip [some tree]
  | .schema => []

/-- A command line that asks for a command. -/
def words (command : Command) : List String :=
  command.name :: writtenWords command.written

theorem renderOptions_areNamed : AreNamed renderOptions :=
  ⟨by decide, by decide, by decide⟩

theorem openapiOptions_areNamed : AreNamed openapiOptions :=
  ⟨by decide, by decide, by decide⟩

theorem treeOption_areNamed : AreNamed [treeOption] :=
  ⟨by decide, by decide, by decide⟩

/-- What starts with no dash and is not the name of the help is the name of a command. -/
theorem parse_cons {word : String} (noOption : word.toList.head? ≠ some '-')
    (notHelp : word ≠ "help") (rest : List String) :
    parse (word :: rest) = parseNamed word rest := by
  unfold parse
  split
  · next letters => simp [letters] at noOption
  · next letters => simp [letters] at noOption
  · next letters => simp [letters] at noOption
  · rw [if_neg notHelp]

theorem parse_words_eq (command : Command) :
    parse command.words = parseNamed command.name (writtenWords command.written) := by
  have plain : ∀ word ∈ ["render", "openapi", "symbols", "schema"],
      word.toList.head? ≠ some '-' ∧ word ≠ "help" := by decide
  have known : command.name ∈ ["render", "openapi", "symbols", "schema"] := by
    cases command <;> simp [name]
  exact parse_cons (plain _ known).1 (plain _ known).2 _

theorem treeOf_eq_ok {given : Given} {tree : String} (taken : given.lookup "ir" = some tree) :
    treeOf given = .ok tree := by
  rw [treeOf, treeOption, taken]

/-- Every command whose values may be given is the one that its own words ask for. -/
theorem parse_words {command : Command}
    (fits : ∀ entry ∈ command.written, entry.2 = some "" → entry.1.mayBeEmpty = true) :
    parse command.words = .ok command := by
  rw [parse_words_eq]
  cases command with
  | render tree settings template output =>
      obtain ⟨given, read, taken⟩ :=
        readOptions_zip renderOptions_areNamed (by exact Nat.le_refl 4) fits
      simp only [renderOptions, List.zip_cons_cons, List.forall_mem_cons] at taken
      obtain ⟨ofTree, rfl, rfl, rfl, _⟩ := taken
      exact bind_eq_ok.mpr ⟨given, read, bind_eq_ok.mpr ⟨tree, treeOf_eq_ok ofTree, rfl⟩⟩
  | openapi tree settings overrides =>
      obtain ⟨title, version, serverUrl, output⟩ := overrides
      obtain ⟨given, read, taken⟩ :=
        readOptions_zip openapiOptions_areNamed (by exact Nat.le_refl 6) fits
      simp only [openapiOptions, List.zip_cons_cons, List.forall_mem_cons] at taken
      obtain ⟨ofTree, rfl, rfl, rfl, rfl, rfl, _⟩ := taken
      exact bind_eq_ok.mpr ⟨given, read, bind_eq_ok.mpr ⟨tree, treeOf_eq_ok ofTree, rfl⟩⟩
  | symbols tree =>
      obtain ⟨given, read, taken⟩ :=
        readOptions_zip treeOption_areNamed (by exact Nat.le_refl 1) fits
      have ofTree := taken _ List.mem_cons_self
      exact bind_eq_ok.mpr ⟨given, read, bind_eq_ok.mpr ⟨tree, treeOf_eq_ok ofTree, rfl⟩⟩
  | schema => rfl

end Command

end RouteAtlas
