/-
Module: RouteAtlas.Proofs.SchemaPlaces
Purpose: What stands where in the schema of a field.  Every place in it is that of a part of the
  field, and holds the schema of this part, whose shape is that of its kind.
Main exports: Schema.Step, Schema.follow?, Field.IsLastNamed, Field.HasPart, Field.Leads,
  Schema.HasShapeOf, Schema.ofField_places
-/
import RouteAtlas.Extraction.Fields
import RouteAtlas.Proofs.OperationParts

namespace RouteAtlas

/-! ## Places -/

namespace Schema

/-- A step from a schema into one that stands in it. -/
inductive Step where
  /-- To what stands under the name of a property. -/
  | property (name : String)
  /-- To the schema of the items. -/
  | items
deriving Repr, DecidableEq

/-- The schema that a step leads to. -/
def step? (schema : Schema) : Step → Option Schema
  | .property name => Dictionary.get? name schema.properties
  | .items => schema.items

/-- The schema that several steps lead to. -/
def follow? (schema : Schema) : List Step → Option Schema
  | [] => some schema
  | step :: steps => (schema.step? step).bind fun inner => inner.follow? steps

end Schema

namespace Field

/-- The last of some fields with a name on the wire. -/
def IsLastNamed (fields : List Field) (name : String) (field : Field) : Prop :=
  field.wireName = name ∧ ∃ before after,
    fields = before ++ field :: after ∧ ∀ later ∈ after, later.wireName ≠ name

theorem isLastNamed_iff {fields : List Field} {name : String} {field : Field} :
    IsLastNamed fields name field ↔
      (fields.reverse.find? fun field => field.wireName = name) = some field := by
  rw [List.find?_eq_some_iff_append]
  constructor
  · rintro ⟨named, before, after, rfl, others⟩
    refine ⟨by simpa using named, after.reverse, before.reverse, by simp, ?_⟩
    simpa using others
  · rintro ⟨named, after, before, backwards, others⟩
    have forwards := congrArg List.reverse backwards
    refine ⟨by simpa using named, before.reverse, after.reverse, by simpa using forwards, ?_⟩
    simpa using others

/-- The part of a field that a step leads to.  Only records and arrays have such parts.  An array
without subfields is one of texts. -/
inductive HasPart : Field → Schema.Step → Field → Prop where
  | property {field part : Field} {name : String} (isRecord : field.kind = .record)
      (last : IsLastNamed field.subfields name part) : HasPart field (.property name) part
  | element {field part : Field} {rest : List Field} (isArray : field.kind = .array)
      (first : field.subfields = part :: rest) : HasPart field .items part
  | text {field : Field} (isArray : field.kind = .array) (none : field.subfields = []) :
      HasPart field .items (leaf "" .string)

/-- The part of a field that several steps lead to. -/
inductive Leads : Field → List Schema.Step → Field → Prop where
  | here (field : Field) : Leads field [] field
  | step {field part place : Field} {step : Schema.Step} {steps : List Schema.Step}
      (hasPart : HasPart field step part) (later : Leads part steps place) :
      Leads field (step :: steps) place

end Field

/-! ## Shapes -/

namespace Schema

/-- A schema that only names its type. -/
structure IsBare (schema : Schema) (type : String) : Prop where
  type : schema.type = type
  properties : schema.properties = []
  items : schema.items = none
  required : schema.required = []

/-- The schema of a record with given fields. -/
structure IsRecordOf (schema : Schema) (fields : List Field) : Prop where
  object : schema.IsObjectOf fields
  /-- The names of the properties are those of the fields. -/
  keys : ∀ name, name ∈ schema.properties.map Prod.fst ↔ ∃ field ∈ fields, field.wireName = name
  /-- Under a name stands the schema of the last field of this name, and nothing else. -/
  entries : ∀ name inner, (name, inner) ∈ schema.properties ↔
    ∃ field, Field.IsLastNamed fields name field ∧ inner = ofField field
  /-- Every required name is that of a property. -/
  required : schema.required ⊆ schema.properties.map Prod.fst

/-- The schema of an array with given subfields, of which only the first one counts. -/
structure IsArrayOf (schema : Schema) (fields : List Field) : Prop where
  type : schema.type = "array"
  properties : schema.properties = []
  required : schema.required = []
  element : ∀ first rest, fields = first :: rest → schema.items = some (ofField first)
  text : fields = [] → ∃ items, schema.items = some items ∧ items.IsBare "string"

/-- The shape of the schema of a field, which depends on the kind of the field. -/
def HasShapeOf (schema : Schema) (field : Field) : Prop :=
  match field.kind with
  | .record => schema.IsRecordOf field.subfields
  | .array => schema.IsArrayOf field.subfields
  | .map => schema.IsBare "object"
  | .string => schema.IsBare "string"
  | .integer _ => schema.IsBare "integer"
  | .bool => schema.IsBare "boolean"

variable {schema inner : Schema} {fields : List Field} {field : Field} {name : String}

theorem isBare_ofType (type : String) : (ofType type).IsBare type :=
  ⟨rfl, rfl, rfl, rfl⟩

namespace IsObjectOf

theorem get?_eq_some_iff (isObject : schema.IsObjectOf fields) :
    Dictionary.get? name schema.properties = some inner ↔
      ∃ field, Field.IsLastNamed fields name field ∧ inner = ofField field := by
  simp [isObject.properties, Field.isLastNamed_iff, eq_comm]

theorem mem_properties_iff (isObject : schema.IsObjectOf fields) :
    (name, inner) ∈ schema.properties ↔
      ∃ field, Field.IsLastNamed fields name field ∧ inner = ofField field := by
  rw [Dictionary.mem_iff_get? isObject.sorted, isObject.get?_eq_some_iff]

/-- The properties are named as the fields are. -/
theorem mem_keys_iff (isObject : schema.IsObjectOf fields) :
    name ∈ schema.properties.map Prod.fst ↔ ∃ field ∈ fields, field.wireName = name := by
  constructor
  · intro member
    obtain ⟨⟨_, inner⟩, listed, rfl⟩ := List.mem_map.mp member
    obtain ⟨field, ⟨named, before, after, rfl, _⟩, _⟩ := isObject.mem_properties_iff.mp listed
    exact ⟨field, by simp, named⟩
  · rintro ⟨field, listed, rfl⟩
    obtain ⟨inner, found⟩ := Option.isSome_iff_exists.mp (isObject.isSome_get? listed)
    exact List.mem_map_of_mem ((Dictionary.mem_iff_get? isObject.sorted).mpr found)

theorem isRecordOf (isObject : schema.IsObjectOf fields) : schema.IsRecordOf fields where
  object := isObject
  keys _ := isObject.mem_keys_iff
  entries _ _ := isObject.mem_properties_iff
  required := by
    intro name needed
    rw [isObject.required] at needed
    obtain ⟨field, kept, named⟩ := List.mem_map.mp needed
    exact isObject.mem_keys_iff.mpr ⟨field, (List.mem_filter.mp kept).1, named⟩

end IsObjectOf

/-- The schema of a field has the shape that belongs to its kind. -/
theorem ofField_hasShapeOf (field : Field) : (ofField field).HasShapeOf field := by
  obtain ⟨name, kind, serialization, validation, subfields⟩ := field
  cases kind with
  | record => exact (object_isObjectOf subfields).isRecordOf
  | array =>
      cases subfields with
      | nil => exact ⟨rfl, rfl, rfl, nofun, fun _ => ⟨_, rfl, isBare_ofType "string"⟩⟩
      | cons element rest =>
          refine ⟨rfl, rfl, rfl, ?_, nofun⟩
          rintro _ _ ⟨⟩
          rfl
  | map => exact isBare_ofType "object"
  | string => exact isBare_ofType "string"
  | integer _ => exact isBare_ofType "integer"
  | bool => exact isBare_ofType "boolean"

/-! ## Steps -/

theorem ofField_record (isRecord : field.kind = .record) :
    ofField field = object field.subfields := by
  obtain ⟨name, kind, serialization, validation, subfields⟩ := field
  cases isRecord
  rfl

theorem ofField_properties_of_ne (other : field.kind ≠ .record) :
    (ofField field).properties = [] := by
  obtain ⟨name, kind, serialization, validation, subfields⟩ := field
  cases kind with
  | record => exact absurd rfl other
  | array => cases subfields <;> rfl
  | _ => rfl

theorem ofField_items_of_ne (other : field.kind ≠ .array) : (ofField field).items = none := by
  obtain ⟨name, kind, serialization, validation, subfields⟩ := field
  cases kind with
  | array => exact absurd rfl other
  | _ => rfl

/-- There is a property below the schema of a field if the field is a record with a subfield of
this name. -/
theorem ofField_property_eq_some_iff :
    Dictionary.get? name (ofField field).properties = some inner ↔
      ∃ part, field.HasPart (.property name) part ∧ inner = ofField part := by
  by_cases isRecord : field.kind = .record
  · rw [ofField_record isRecord, (object_isObjectOf field.subfields).get?_eq_some_iff]
    constructor
    · rintro ⟨part, last, same⟩
      exact ⟨part, .property isRecord last, same⟩
    · rintro ⟨part, ⟨_, last⟩, same⟩
      exact ⟨part, last, same⟩
  · rw [ofField_properties_of_ne isRecord]
    constructor
    · rintro ⟨⟩
    · rintro ⟨part, ⟨also, _⟩, _⟩
      exact absurd also isRecord

/-- There are items below the schema of a field if the field is an array. -/
theorem ofField_items_eq_some_iff :
    (ofField field).items = some inner ↔
      ∃ part, field.HasPart .items part ∧ inner = ofField part := by
  by_cases isArray : field.kind = .array
  · obtain ⟨name, kind, serialization, validation, subfields⟩ := field
    cases isArray
    cases subfields with
    | nil =>
        constructor
        · rintro ⟨⟩
          exact ⟨_, .text rfl rfl, rfl⟩
        · rintro ⟨part, hasPart, rfl⟩
          cases hasPart with
          | element _ first => cases first
          | text => rfl
    | cons element rest =>
        constructor
        · rintro ⟨⟩
          exact ⟨element, .element rfl rfl, rfl⟩
        · rintro ⟨part, hasPart, rfl⟩
          cases hasPart with
          | element _ first =>
              cases first
              rfl
          | text _ none => cases none
  · rw [ofField_items_of_ne isArray]
    constructor
    · rintro ⟨⟩
    · rintro ⟨part, hasPart, _⟩
      cases hasPart with
      | element also | text also => exact absurd also isArray

/-- A step leads into the schema of a field exactly if it leads to a part of the field, and what
stands there is the schema of the part. -/
theorem ofField_step?_eq_some_iff {step : Step} :
    (ofField field).step? step = some inner ↔
      ∃ part, field.HasPart step part ∧ inner = ofField part := by
  cases step with
  | property name => exact ofField_property_eq_some_iff
  | items => exact ofField_items_eq_some_iff

/-- The schema of a field has a schema in some place exactly if the field has a part in this
place.  It is the schema of the part, and it has the shape that belongs to the kind of the
part. -/
theorem ofField_places (field : Field) (steps : List Step) (schema : Schema) :
    (ofField field).follow? steps = some schema ↔
      ∃ part, field.Leads steps part ∧ schema = ofField part ∧ schema.HasShapeOf part := by
  -- A step goes from a field to a part of it, so the steps are followed from any field.
  induction steps generalizing field with
  | nil =>
      constructor
      · rintro ⟨⟩
        exact ⟨field, .here field, rfl, ofField_hasShapeOf field⟩
      · rintro ⟨part, leads, rfl, _⟩
        cases leads
        rfl
  | cons step steps ih =>
      rw [follow?, Option.bind_eq_some_iff]
      constructor
      · rintro ⟨inner, entered, followed⟩
        obtain ⟨part, hasPart, rfl⟩ := ofField_step?_eq_some_iff.mp entered
        obtain ⟨place, leads, same, shape⟩ := (ih part).mp followed
        exact ⟨place, .step hasPart leads, same, shape⟩
      · rintro ⟨place, leads, same, shape⟩
        cases leads with
        | step hasPart later =>
            exact ⟨_, ofField_step?_eq_some_iff.mpr ⟨_, hasPart, rfl⟩,
              (ih _).mpr ⟨place, later, same, shape⟩⟩

example :
    let row : Field := ⟨"Row", .record, none, [], [
      ⟨"ID", .string, some ⟨.json, "id"⟩, ["required"], []⟩,
      ⟨"Key", .bool, some ⟨.json, "id"⟩, [], []⟩]⟩
    (ofField ⟨"Rows", .array, some ⟨.json, "rows"⟩, [], [row]⟩).follow? [.items, .property "id"] =
      some (ofType "boolean") := rfl

end Schema

end RouteAtlas
