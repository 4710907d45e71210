/-
Module: RouteAtlas.Yaml.Decoder
Purpose: Values of other types from the nodes of a document.
Main exports: Yaml.Setter, Yaml.setEntries, Yaml.Node.asSection,
  Yaml.Node.asRecord
-/
import RouteAtlas.Yaml.Cursor
import RouteAtlas.Yaml.Kind

namespace RouteAtlas.Yaml

/-- One field of a structure: its name and how a node is put into it. -/
abbrev Setter (σ : Type) := String × (Node → σ → Except Fault σ)

/-- A setter from a way to read the node. -/
def setter {σ α : Type} (name : String) (read : Node → Except Fault α)
    (set : α → σ → σ) : Setter σ :=
  (name, fun node state => (read node).map fun value => set value state)

/-- Set the fields that the keys of entries name, each at most once.  Entries
whose keys name none are passed over. -/
def setEntries {σ : Type} (setters : List (Setter σ))
    (nameOf : Scalar → Except Fault (Option String)) (seen : List String)
    (state : σ) : List (Scalar × Node) → Except Fault σ
  | [] => .ok state
  | (key, node) :: rest => do
      let name ← nameOf key
      match name with
      | none => setEntries setters nameOf seen state rest
      | some name =>
          match setters.lookup name with
          | none => setEntries setters nameOf seen state rest
          | some set =>
              if seen.contains name then throw (.repeatedKey name)
              let state ← set node state
              setEntries setters nameOf (name :: seen) state rest

/-- Set the fields in order from the items of a sequence. -/
def setItems {σ : Type} : List (Setter σ) → List Node → σ → Except Fault σ
  | _, [], state => .ok state
  | [], _ :: _, _ => .error (.unexpected "fewer items")
  | (_, set) :: setters, item :: rest, state => do
      let state ← set item state
      setItems setters rest state

namespace Node

/-!
Where a text is expected, any scalar stands for the text that is written.
-/

/-- The text of a scalar. -/
def asText : Node → Except Fault String
  | .scalar written => .ok written.text
  | _ => .error (.unexpected "a string")

/-- The text of a scalar, unless it stands for nothing. -/
def asOptionalText : Node → Except Fault (Option String)
  | .scalar written =>
      .ok (if written.kind = .null then none else some written.text)
  | _ => .error (.unexpected "a string")

/-- A truth value. -/
def asBool : Node → Except Fault Bool
  | .scalar written =>
      match written.kind with
      | .bool value => .ok value
      | _ => .error (.unexpected "a boolean")
  | _ => .error (.unexpected "a boolean")

/-- A natural number below a bound. -/
def asNatural (bound : Nat) : Node → Except Fault Nat
  | .scalar written =>
      match (if written.plain then natural? bound written.text else none) with
      | some value => .ok value
      | none => .error (.unexpected "a natural number")
  | _ => .error (.unexpected "a natural number")

/-- The entries of a section, which may be left empty. -/
def asEntries (label : String) : Node → Except Fault (List (Scalar × Node))
  | .mapping entries => .ok entries
  | .scalar ⟨true, ""⟩ => .ok []
  | _ => .error (.unexpected label)

/-- A section whose fields have standard values. -/
def asSection {σ : Type} (label : String) (setters : List (Setter σ))
    (standard : σ) (node : Node) : Except Fault σ := do
  let entries ← node.asEntries label
  setEntries setters (fun key => .ok (some key.text)) [] standard entries

/-!
In other places a scalar counts as what it stands for, so that a number is no
text.
-/

/-- A scalar that stands for a text. -/
def asStrictText : Node → Except Fault String
  | .scalar written =>
      if written.kind = .text then .ok written.text
      else .error (.unexpected "a string")
  | _ => .error (.unexpected "a string")

/-- A sequence of texts. -/
def asStrictTexts : Node → Except Fault (List String)
  | .sequence items => items.mapM asStrictText
  | _ => .error (.unexpected "a sequence")

/-- The name that a key stands for: a text, or a position among names. -/
def nameOfKey (names : List String) (key : Scalar) :
    Except Fault (Option String) :=
  match key.kind with
  | .text => .ok (some key.text)
  | .natural n => .ok names[n]?
  | _ => .error (.unexpected "a field name")

/-- Whether a node holds nothing. -/
def isVoid : Node → Bool
  | .scalar written => written.kind == .null
  | .mapping [] => true
  | _ => false

/-- A choice among names: a name, or a mapping with the name as its only
key. -/
def asChoice {α : Type} (options : List (String × α)) :
    Node → Except Fault α
  | .scalar written =>
      if written.kind = .text then known written.text
      else .error (.unexpected "a name")
  | .mapping [(key, payload)] => do
      let name ← nameOfKey (options.map (·.1)) key
      let value ← known (name.getD key.text)
      if payload.isVoid then return value
      else throw (.unexpected "nothing behind a name")
  | _ => .error (.unexpected "a name")
where
  /-- The choice that a name stands for. -/
  known (name : String) : Except Fault α :=
    match options.lookup name with
    | some value => .ok value
    | none => .error (.unknownName name)

/-- A structure whose fields have standard values, as a mapping or as a
sequence of its fields in order. -/
def asRecord {σ : Type} (label : String) (setters : List (Setter σ))
    (standard : σ) : Node → Except Fault σ
  | .mapping entries =>
      setEntries setters (nameOfKey (setters.map (·.1))) [] standard entries
  | .sequence items => setItems setters items standard
  | _ => .error (.unexpected label)

end Node

end RouteAtlas.Yaml
