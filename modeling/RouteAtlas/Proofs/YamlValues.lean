/-
Module: RouteAtlas.Proofs.YamlValues
Purpose: Nodes that hold values of other types, as they are written by hand and as they are made
  from JSON values.
Main exports: Yaml.HoldsText, Yaml.HoldsTexts, Yaml.IsSection, Yaml.exists_asSection,
  Yaml.gives_ofMembers, Yaml.isWritable_object
-/
import RouteAtlas.Proofs.YamlRecords
import RouteAtlas.Proofs.YamlRoundTrip
import RouteAtlas.Settings.Basic
import RouteAtlas.Yaml.OfJson

namespace RouteAtlas.Yaml

/-! ## Well-typed values -/

/-- A scalar that stands for a text. -/
inductive HoldsText : String → Node → Prop where
  | scalar {scalar : Scalar} (isText : scalar.kind = .text) : HoldsText scalar.text (.scalar scalar)

/-- A scalar that stands for whatever text is written. -/
inductive HoldsWritten : String → Node → Prop where
  | scalar (scalar : Scalar) : HoldsWritten scalar.text (.scalar scalar)

/-- A scalar that stands for a path, or for nothing. -/
inductive HoldsPath : Option String → Node → Prop where
  | absent {scalar : Scalar} (isNull : scalar.kind = .null) : HoldsPath none (.scalar scalar)
  | present {scalar : Scalar} (isPath : scalar.kind ≠ .null) :
      HoldsPath (some scalar.text) (.scalar scalar)

/-- A scalar that stands for a truth value. -/
inductive HoldsTruth : Bool → Node → Prop where
  | scalar {scalar : Scalar} {value : Bool} (isTruth : scalar.kind = .bool value) :
      HoldsTruth value (.scalar scalar)

/-- A scalar that stands for a number of 32 bits. -/
inductive HoldsNumber : Nat → Node → Prop where
  | scalar {scalar : Scalar} {value : Nat} (isNumber : scalar.kind = .natural value)
      (small : value < Nat.pow 2 32) : HoldsNumber value (.scalar scalar)

/-- A scalar that stands for the name of a value. -/
def HoldsName {α : Type} (name : α → String) (value : α) (node : Node) : Prop :=
  HoldsText (name value) node

/-- A sequence of scalars that stand for texts. -/
inductive HoldsTexts : List String → Node → Prop where
  | sequence {texts : List String} {items : List Node}
      (holds : List.Forall₂ HoldsText texts items) : HoldsTexts texts (.sequence items)

/-- A section with entries, which may be left empty. -/
inductive IsSection : List (Scalar × Node) → Node → Prop where
  | mapping (entries : List (Scalar × Node)) : IsSection entries (.mapping entries)
  | empty : IsSection [] .empty

/-! ## Reading them -/

theorem asStrictText_of_holds (text : String) (node : Node) (holds : HoldsText text node) :
    node.asStrictText = .ok text := by
  cases holds with
  | scalar isText => rw [Node.asStrictText, if_pos isText]

theorem asText_of_holds (text : String) (node : Node) (holds : HoldsWritten text node) :
    node.asText = .ok text := by
  cases holds
  rfl

theorem asOptionalText_of_holds (path : Option String) (node : Node)
    (holds : HoldsPath path node) : node.asOptionalText = .ok path := by
  cases holds with
  | absent isNull => rw [Node.asOptionalText, if_pos isNull]
  | present isPath => rw [Node.asOptionalText, if_neg isPath]

theorem asBool_of_holds (value : Bool) (node : Node) (holds : HoldsTruth value node) :
    node.asBool = .ok value := by
  cases holds with
  | scalar isTruth => rw [Node.asBool, isTruth]

theorem asChoice_of_holds {α : Type} {name : α → String} {all : List α}
    (named : ∀ value, (all.map fun value => (name value, value)).lookup (name value) = some value)
    (value : α) (node : Node) (holds : HoldsName name value node) :
    node.asChoice (all.map fun value => (name value, value)) = .ok value := by
  unfold HoldsName at holds
  generalize written : name value = text at holds
  cases holds with
  | scalar isText => rw [Node.asChoice, if_pos isText, ← written, Node.asChoice.known, named]

theorem asStrictTexts_of_holds (texts : List String) (node : Node)
    (holds : HoldsTexts texts node) : node.asStrictTexts = .ok texts := by
  cases holds with
  | sequence holds =>
      rw [Node.asStrictTexts, Fallible.mapM_eq_ok]
      exact holds.flip.imp fun _ _ => asStrictText_of_holds _ _

theorem natural?_of_kindOf {text : String} {value : Nat} (isNumber : kindOf text = .natural value) :
    natural? (Nat.pow 2 128) text = some value := by
  unfold kindOf at isNumber
  split at isNumber
  · cases isNumber
  · split at isNumber
    · cases isNumber
    · split at isNumber
      · next found =>
          cases isNumber
          exact found
      · split at isNumber <;> cases isNumber

theorem natural?_of_lt {limit bound value : Nat} {text : String}
    (found : natural? limit text = some value) (small : value < bound) :
    natural? bound text = some value := by
  simp only [natural?, Option.filter_eq_some_iff, decide_eq_true_eq] at found ⊢
  exact ⟨found.1, small⟩

theorem asNatural_of_holds (value : Nat) (node : Node) (holds : HoldsNumber value node) :
    node.asNatural (Nat.pow 2 32) = .ok value := by
  cases holds with
  | @scalar scalar _ isNumber small =>
      cases plain : scalar.plain with
      | false => simp [Scalar.kind, plain] at isNumber
      | true =>
          rw [Scalar.kind, if_pos plain] at isNumber
          rw [Node.asNatural, if_pos plain, natural?_of_lt (natural?_of_kindOf isNumber) small]

/-- The entries of a section name fields with the texts of their keys. -/
theorem exists_asSection {σ : Type} {setters : List (Setter σ)} {entries : List (Scalar × Node)}
    {node : Node} (isSection : IsSection entries node) (label : String)
    (takes : ∀ entry ∈ setters, ∀ node, nodeAt? entry.1 entries = some node →
      ∀ before, ∃ after, entry.2 node before = .ok after)
    (distinct : (entries.map keyOf).Nodup) (standard : σ) :
    ∃ after, Sets setters (fun key => .ok (some key.text)) entries standard after ∧
      node.asSection label setters standard = .ok after := by
  obtain ⟨after, sets⟩ : ∃ after,
      Sets setters (fun key => .ok (some key.text)) entries standard after :=
    exists_sets takes (fun _ _ => rfl) distinct standard
  have read : node.asEntries label = .ok entries := by
    cases isSection <;> rfl
  refine ⟨after, sets, ?_⟩
  rw [Node.asSection, Fallible.bind_eq_ok]
  exact ⟨entries, read, sets.ran⟩

/-! ## JSON values -/

theorem kind_ofText (text : String) : (Scalar.ofText text).kind = .text := by
  rw [Scalar.kind]
  split
  · next plain =>
      have style : Style.ofText text = .plain := by simpa [Scalar.ofText] using plain
      have clear : isMistakable text = false := by
        by_contra mistakable
        simp only [Style.ofText] at style
        split at style
        · cases style
        · split at style
          · split at style <;> cases style
          · rw [if_pos (by simpa using mistakable)] at style
            cases style
      simp only [isMistakable, Bool.or_eq_false_iff, bne_eq_false_iff_eq] at clear
      exact clear.1
  · rfl

theorem holdsText_ofText (text : String) : HoldsText text (.ofJson (.string text)) :=
  .scalar (kind_ofText text)

theorem holdsWritten_ofText (text : String) : HoldsWritten text (.ofJson (.string text)) :=
  .scalar (.ofText text)

theorem holdsPath_ofOption (path : Option String) : HoldsPath path (.ofJson (.ofOption path)) := by
  cases path with
  | none => exact .absent (by decide)
  | some text =>
      change HoldsPath (some (Scalar.ofText text).text) (.scalar (.ofText text))
      refine .present ?_
      rw [kind_ofText]
      decide

theorem holdsTruth_ofBool (value : Bool) : HoldsTruth value (.ofJson (.bool value)) := by
  cases value with
  | true => exact .scalar (by decide)
  | false => exact .scalar (by decide)

theorem holdsTexts_ofStrings (texts : List String) :
    HoldsTexts texts (.ofJson (.strings texts)) := by
  refine .sequence ?_
  induction texts with
  | nil => exact .nil
  | cons text texts ih => exact .cons (holdsText_ofText text) ih

theorem holdsNumber_one : HoldsNumber 1 (.ofJson (.int 1)) :=
  .scalar (by decide) (by decide)

/-! ### Members as entries -/

theorem ofMembers_eq_map (members : List (String × Json)) :
    Node.ofMembers members =
      members.map fun member => (Scalar.ofText member.1, Node.ofJson member.2) := by
  induction members with
  | nil => rfl
  | cons member members ih => rw [Node.ofMembers, ih, List.map_cons]

theorem keys_ofMembers (members : List (String × Json)) :
    (Node.ofMembers members).map keyOf = members.map Prod.fst := by
  rw [ofMembers_eq_map, List.map_map]
  rfl

theorem nodeAt?_ofMembers (name : String) (members : List (String × Json)) :
    nodeAt? name (Node.ofMembers members) = (members.lookup name).map Node.ofJson := by
  induction members with
  | nil => rfl
  | cons member members ih =>
      obtain ⟨key, value⟩ := member
      have isKey : keyOf (Scalar.ofText key, Node.ofJson value) = key := rfl
      rw [Node.ofMembers, List.lookup_cons]
      by_cases same : key = name
      · rw [nodeAt?_cons_of_eq (isKey.trans same)]
        simp [same]
      · rw [nodeAt?_cons_of_ne (isKey ▸ same), ih]
        simp [beq_eq_false_iff_ne.mpr (Ne.symm same)]

theorem gives_ofMembers {α : Type} {Holds : α → Node → Prop} {name : String} {value : α}
    {members : List (String × Json)} {json : Json} (found : members.lookup name = some json)
    (holds : Holds value (.ofJson json)) :
    Gives (Node.ofMembers members) name Holds (some value) := by
  rw [Gives, nodeAt?_ofMembers, found]
  exact .some holds

/-! ### Writing them -/

theorem isWritable_word {text : String} (plain : IsPlainText text.toList) :
    (Node.scalar ⟨true, text⟩).IsWritable :=
  .scalar fun _ => plain

theorem isWritable_null : (Node.ofJson .null).IsWritable :=
  isWritable_word ⟨by decide, by decide, by decide⟩

theorem isWritable_bool (value : Bool) : (Node.ofJson (.bool value)).IsWritable := by
  cases value with
  | true => exact isWritable_word ⟨by decide, by decide, by decide⟩
  | false => exact isWritable_word ⟨by decide, by decide, by decide⟩

theorem isWritable_one : (Node.ofJson (.int 1)).IsWritable :=
  isWritable_word ⟨by decide, by decide, by decide⟩

theorem isWritable_string (text : String) : (Node.ofJson (.string text)).IsWritable :=
  .scalar (Scalar.isWritable_ofText text)

theorem isWritable_option (text : Option String) : (Node.ofJson (.ofOption text)).IsWritable := by
  cases text with
  | none => exact isWritable_null
  | some text => exact isWritable_string text

theorem isWritable_strings (texts : List String) : (Node.ofJson (.strings texts)).IsWritable := by
  refine .sequence ?_
  induction texts with
  | nil => exact nofun
  | cons text texts ih => exact List.forall_mem_cons.mpr ⟨isWritable_string text, ih⟩

/-- An object whose names are not too long can be written if its values can. -/
theorem isWritable_object {members : List (String × Json)}
    (short : ∀ member ∈ members, member.1.toList.length ≤ 100)
    (writable : ∀ member ∈ members, (Node.ofJson member.2).IsWritable) :
    (Node.ofJson (.object members)).IsWritable := by
  change (Node.mapping (Node.ofMembers members)).IsWritable
  rw [ofMembers_eq_map]
  refine .mapping ?_ ?_
  · rw [List.forall_mem_map]
    exact fun member inside => isKey_ofText (short member inside)
  · rw [List.forall_mem_map]
    exact writable

end RouteAtlas.Yaml
