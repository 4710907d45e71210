/-
Module: RouteAtlas.Proofs.AliasWords
Purpose: What aliases look like, and that none of them is a word of the Go language or of the
  registration template that comes with the library.
Main exports: Alias.HasForm, Go.keywords, Template.embeddedWords, Template.ownNames,
  Collector.aliases_distinct
-/
import RouteAtlas.Proofs.AliasTable
import RouteAtlas.Proofs.EmbeddedTemplate

namespace RouteAtlas

/-! ## Form -/

namespace Alias

/-- One letter of the alphabet, then any number of `z`, then the letter of a role. -/
def HasForm (name : String) : Prop :=
  ∃ (first role : Char) (rounds : Nat), 'a' ≤ first ∧ first ≤ 'z' ∧ role ∈ ['i', 'r'] ∧
    name = String.ofList (first :: List.replicate rounds 'z' ++ [role])

theorem letter_between (index : Nat) : 'a' ≤ letter index ∧ letter index ≤ 'z' := by
  have code := toNat_letter index
  have small : index % 26 < 26 := Nat.mod_lt _ (by decide)
  rw [Char.le_def, Char.le_def, UInt32.le_iff_toNat_le, UInt32.le_iff_toNat_le]
  change 97 ≤ (letter index).toNat ∧ (letter index).toNat ≤ 122
  omega

theorem hasForm_letters (index : Nat) {role : Char} (isRole : role ∈ ['i', 'r']) :
    HasForm (String.ofList (letters index ++ [role])) :=
  have between := letter_between index
  ⟨letter index, role, index / 26, between.1, between.2, isRole, rfl⟩

/-- After its first letter and all the `z` that follow, an alias has only its role. -/
theorem HasForm.role {name : String} (form : HasForm name) :
    name.toList.tail.dropWhile (· = 'z') ∈ [['i'], ['r']] := by
  obtain ⟨first, role, rounds, -, -, isRole, rfl⟩ := form
  rw [String.toList_ofList, List.cons_append, List.tail_cons,
    List.dropWhile_append_of_pos fun c member => decide_eq_true (List.eq_of_mem_replicate member)]
  simp only [List.mem_cons, List.not_mem_nil, or_false] at isRole
  rcases isRole with rfl | rfl <;> decide

end Alias

/-! ## Words -/

/-- The words of the language that cannot be names. -/
def Go.keywords : List String :=
  ["break", "case", "chan", "const", "continue", "default", "defer", "else", "fallthrough",
    "for", "func", "go", "goto", "if", "import", "interface", "map", "package", "range",
    "return", "select", "struct", "switch", "type", "var"]

namespace Template

/-- The words among some characters: what stands between those that no name has. -/
def wordsOf (chars : List Char) : List (List Char) :=
  chars.splitOnP fun c => !(c.isAlphanum || c = '_')

/-- All words of the registration template, those of its own statements included. -/
def embeddedWords : List String :=
  embeddedLines.flatMap fun line => (wordsOf line.toList).map String.ofList

/-- The names that the code which the template writes has for itself. -/
def ownNames : List String :=
  ["app", "v", "c", "body", "err", "res", "fiber", "validator"]

theorem words_of_spelled {lines : List String} {chars : List (List Char)}
    (spelled : List.Forall₂ Spells lines chars) :
    (lines.flatMap fun line => (wordsOf line.toList).map String.ofList) =
      (chars.flatMap wordsOf).map String.ofList := by
  induction spelled with
  | nil => rfl
  | cons first _ ih =>
      rw [List.flatMap_cons, List.flatMap_cons, List.map_append, ih, first, String.toList_ofList]

set_option maxRecDepth 100000 in
/-- None of the words ends like an alias, and the names for own use are among them. -/
theorem embeddedWords_spelled : ∃ words : List (List Char),
    embeddedWords = words.map String.ofList ∧
      (∀ word ∈ words, word.tail.dropWhile (· = 'z') ∉ [['i'], ['r']]) ∧
      ∀ name ∈ ownNames, name.toList ∈ words := by
  apply Exists.intro
  apply And.intro
  · apply words_of_spelled
    -- Unification finds the characters of a line, which the kernel reads faster than it.
    unfold embeddedLines
    repeat
      apply List.Forall₂.cons
      · exact rfl
    exact .nil
  · decide +kernel

theorem ownNames_subset : ownNames ⊆ embeddedWords := by
  obtain ⟨words, spelled, -, known⟩ := embeddedWords_spelled
  intro name own
  rw [spelled, ← String.ofList_toList (s := name)]
  exact List.mem_map_of_mem (known name own)

end Template

namespace Alias.HasForm

variable {name : String}

theorem notMem_keywords (form : HasForm name) : name ∉ Go.keywords := by
  have apart : ∀ word ∈ Go.keywords, word.toList.tail.dropWhile (· = 'z') ∉ [['i'], ['r']] := by
    decide +kernel
  exact fun member => apart name member form.role

theorem notMem_embeddedWords (form : HasForm name) : name ∉ Template.embeddedWords := by
  obtain ⟨words, spelled, apart, -⟩ := Template.embeddedWords_spelled
  rw [spelled]
  intro member
  obtain ⟨word, found, rfl⟩ := List.mem_map.mp member
  have role := form.role
  rw [String.toList_ofList] at role
  exact apart word found role

end Alias.HasForm

/-! ## Tables -/

namespace Collector

variable (collector : Collector)

theorem hasForm_of_mem_idents {name : String} (member : name ∈ collector.finish.idents) :
    Alias.HasForm name := by
  rw [SymbolTable.idents, finish, map_snd_numbered, map_snd_numbered] at member
  rcases List.mem_append.mp member with ofImport | ofReceiver
  · obtain ⟨index, _, rfl⟩ := List.mem_map.mp ofImport
    exact Alias.hasForm_letters index (by decide)
  · obtain ⟨index, _, rfl⟩ := List.mem_map.mp ofReceiver
    exact Alias.hasForm_letters index (by decide)

/-- The aliases of a table are pairwise distinct, those of packages and of receivers
together.  Each is one letter, any number of `z` and the letter of its role, so that it is
neither a keyword nor a word of the registration template.  Two places never have the same
letters. -/
theorem aliases_distinct :
    collector.finish.idents.Nodup ∧
      (∀ name ∈ collector.finish.idents, Alias.HasForm name ∧ name ∉ Go.keywords ∧
        name ∉ Template.ownNames ∧ name ∉ Template.embeddedWords) ∧
      ∀ index index', String.ofList (Alias.letters index) = String.ofList (Alias.letters index') →
        index = index' := by
  refine ⟨idents_finish_nodup collector, ?_, ?_⟩
  · intro name member
    have form := collector.hasForm_of_mem_idents member
    have foreign := form.notMem_embeddedWords
    exact ⟨form, form.notMem_keywords, fun own => foreign (Template.ownNames_subset own), foreign⟩
  · intro index index' same
    exact Alias.letters_injective (String.ofList_injective same)

theorem aliases_distinct_service :
    let collector : Collector :=
      { imports := ["example.com/users"], receivers := [⟨"example.com/users", "Service", true⟩] }
    collector.finish.idents = ["ai", "ar"] ∧ "ar" ∉ Go.keywords ∧ "ar" ∉ Template.ownNames := by
  intro collector
  have idents : collector.finish.idents = ["ai", "ar"] := by decide
  have member : "ar" ∈ collector.finish.idents := by
    rw [idents]
    decide
  obtain ⟨-, apart, -⟩ := aliases_distinct collector
  obtain ⟨-, keyword, own, -⟩ := apart "ar" member
  exact ⟨idents, keyword, own⟩

end Collector

end RouteAtlas
