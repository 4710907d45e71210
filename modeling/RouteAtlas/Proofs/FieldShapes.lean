/-
Module: RouteAtlas.Proofs.FieldShapes
Purpose: What the schema of a record looks like.  At every depth the fields of a record
  stand for its members, one for each, and the parts of a field follow from its type.
Main exports: IsWireName, TypeDesc.Describes, Member.DescribeAll, Field.describes_of_ofType,
  Data.ofType_describes
-/
import RouteAtlas.Proofs.SchemaChecks

namespace RouteAtlas

open Fallible

variable {keys : TagKeys}

/-! ## Names on the wire -/

/-- At least one character, and each of them a small Latin letter, a hyphen or an
underscore. -/
def IsWireName (name : String) : Prop :=
  name ≠ "" ∧ ∀ c ∈ name.toList, ('a' ≤ c ∧ c ≤ 'z') ∨ c = '-' ∨ c = '_'

namespace Serialization

variable {name : String} {tags : Tags} {serialization : Serialization}

theorem isWireChar_iff {c : Char} :
    isWireChar c = true ↔ ('a' ≤ c ∧ c ≤ 'z') ∨ c = '-' ∨ c = '_' := by
  have lower : c.isLower = (decide ('a' ≤ c) && decide (c ≤ 'z')) := rfl
  simp [isWireChar, lower, or_assoc]

theorem isWireName_of_checkName {value : Unit} (passes : checkName name = .ok value) :
    IsWireName name := by
  unfold checkName at passes
  split at passes
  · next named =>
      apply And.intro named.1
      intro c member
      apply isWireChar_iff.mp
      exact List.all_eq_true.mp named.2 c member
  · cases passes

theorem isWireName_of_ofRoleTag {value : String} (read : ofRoleTag value = .ok serialization) :
    IsWireName serialization.name := by
  unfold ofRoleTag at read
  split at read
  · obtain ⟨_, passes, read⟩ := bind_eq_ok.mp read
    obtain ⟨role, _, read⟩ := bind_eq_ok.mp read
    cases read
    exact isWireName_of_checkName passes
  · cases read

theorem isWireName_of_ofNameTag {value : Option String}
    (read : ofNameTag value = .ok serialization) : IsWireName serialization.name := by
  unfold ofNameTag at read
  split at read
  · cases read
  · obtain ⟨_, passes, read⟩ := bind_eq_ok.mp read
    cases read
    exact isWireName_of_checkName passes

/-- Whichever tag decides, the name that it gives may stand on the wire. -/
theorem isWireName_of_ofTags (read : ofTags keys tags = .ok serialization) :
    IsWireName serialization.name := by
  unfold ofTags at read
  split at read
  · exact isWireName_of_ofRoleTag (mapError_eq_ok.mp read)
  · exact isWireName_of_ofNameTag (mapError_eq_ok.mp read)

end Serialization

/-! ## Described fields -/

/-- A field that is part of another one and does not travel on its own. -/
structure Field.IsBare (field : Field) : Prop where
  serialization : field.serialization = none
  validation : field.validation = []

/-- The field of the keys of a map: a text or a signed integer. -/
structure TypeDesc.DescribesKey (key : TypeDesc) (field : Field) : Prop where
  name : field.name = "key"
  bare : field.IsBare
  leaf : field.subfields = []
  kind : (key.shape = .string ∧ field.kind = .string) ∨
    ∃ type, key.shape = .int type ∧ type.isSigned = true ∧ field.kind = .integer type

mutual

/-- What a type says about the kind and the parts of its field.  No rule is about floats,
which no field is made of, and a pointer says what its target says. -/
inductive TypeDesc.Describes (keys : TagKeys) : TypeDesc → FieldKind → List Field → Prop where
  | bool (name module : String) : TypeDesc.Describes keys (.mk name module .bool) .bool []
  | string (name module : String) : TypeDesc.Describes keys (.mk name module .string) .string []
  | int (name module : String) (type : IntType) :
      TypeDesc.Describes keys (.mk name module (.int type)) (.integer type) []
  | slice (name module : String) {element : TypeDesc} {part : Field} (bare : part.IsBare)
      (elements : TypeDesc.Describes keys element part.kind part.subfields) :
      TypeDesc.Describes keys (.mk name module (.slice element)) .array [part]
  | array (name module : String) {element : TypeDesc} (length : Nat) {part : Field}
      (bare : part.IsBare) (elements : TypeDesc.Describes keys element part.kind part.subfields) :
      TypeDesc.Describes keys (.mk name module (.array element length)) .array [part]
  | map (name module : String) {key value : TypeDesc} {keyPart valuePart : Field}
      (isKey : key.DescribesKey keyPart) (named : valuePart.name = "value")
      (bare : valuePart.IsBare)
      (values : TypeDesc.Describes keys value valuePart.kind valuePart.subfields) :
      TypeDesc.Describes keys (.mk name module (.map key value)) .map [keyPart, valuePart]
  | record (name module : String) {members : List Member} {fields : List Field}
      (all : Member.DescribeAll keys (Member.flatten members) fields) :
      TypeDesc.Describes keys (.mk name module (.record members)) .record fields
  | pointer (name module : String) {target : TypeDesc} {kind : FieldKind} {parts : List Field}
      (single : ∀ inner, target.shape ≠ .pointer inner)
      (pointee : TypeDesc.Describes keys target kind parts) :
      TypeDesc.Describes keys (.mk name module (.pointer target)) kind parts

/-- Members have one field each, in their order.  The field of a member has its name, its
validation rules, and a serialization from its tags with a name for the wire. -/
inductive Member.DescribeAll (keys : TagKeys) : List Member → List Field → Prop where
  | nil : Member.DescribeAll keys [] []
  | cons {member : Member} {field : Field} {serialization : Serialization}
      {members : List Member} {fields : List Field} (name : field.name = member.name)
      (travels : field.serialization = some serialization)
      (tagged : Serialization.ofTags keys member.tags = .ok serialization)
      (named : IsWireName serialization.name)
      (validation : field.validation = keys.validation member.tags)
      (type : member.type.Describes keys field.kind field.subfields)
      (others : Member.DescribeAll keys members fields) :
      Member.DescribeAll keys (member :: members) (field :: fields)

end

/-- The parts of the field of a record are those of its members. -/
theorem Member.describeAll_of_record {name module : String} {members : List Member}
    {kind : FieldKind} {parts : List Field}
    (described : TypeDesc.Describes keys (.mk name module (.record members)) kind parts) :
    DescribeAll keys (flatten members) parts := by
  cases described with
  | record _ _ all => exact all

/-! ## Steps -/

namespace Field

variable {name module : String} {field : Field}

/-- A pointer has the field of its target. -/
theorem ofType_pointer {target : TypeDesc} (single : ∀ inner, target.shape ≠ .pointer inner) :
    ofType keys (.mk name module (.pointer target)) = ofType keys target := by
  obtain ⟨inner, innerModule, shape⟩ := target
  cases shape with
  | pointer deep => exact absurd rfl (single deep)
  | _ => rfl

theorem single_of_ofType {target : TypeDesc}
    (made : ofType keys (.mk name module (.pointer target)) = .ok field) :
    ∀ inner, target.shape ≠ .pointer inner := by
  obtain ⟨inner, innerModule, shape⟩ := target
  intro deep isPointer
  cases isPointer
  cases made

theorem ofType_slice {element : TypeDesc} :
    ofType keys (.mk name module (.slice element)) = do
      return { leaf "" .array with subfields := [← ofType keys element] } := rfl

theorem ofType_array {element : TypeDesc} {length : Nat} :
    ofType keys (.mk name module (.array element length)) = do
      return { leaf "" .array with subfields := [← ofType keys element] } := rfl

theorem ofType_map {key value : TypeDesc} :
    ofType keys (.mk name module (.map key value)) = do
      let kind ← keyKind key
      let value ← ofType keys value
      return { leaf "" .map with
        subfields := [leaf "key" kind, { value with name := "value" }] } := rfl

/-- The field of a record has a part for each member that is left after embedding. -/
theorem ofType_members {members : List Member} :
    ofType keys (.mk name module (.record members)) = do
      return { leaf name .record with
        subfields := ← (Member.flatten members).mapM (ofMember keys) } := by
  rw [← ofMembers_eq_mapM]
  rfl

theorem ofTags_eq_ok {member : Member} {serialization : Serialization}
    {validation : List String} (read : ofTags keys member = .ok (serialization, validation)) :
    Serialization.ofTags keys member.tags = .ok serialization ∧
      validation = keys.validation member.tags := by
  unfold ofTags at read
  split at read
  · cases read
  · next tagged =>
      cases read
      exact ⟨tagged, rfl⟩

theorem ofMember_eq_ok {member : Member} (made : ofMember keys member = .ok field) :
    ∃ serialization value, Serialization.ofTags keys member.tags = .ok serialization ∧
      ofType keys member.type = .ok value ∧
      field = ⟨member.name, value.kind, some serialization, keys.validation member.tags,
        value.subfields⟩ := by
  obtain ⟨⟨serialization, validation⟩, read, made⟩ := bind_eq_ok.mp made
  obtain ⟨value, typed, made⟩ := bind_eq_ok.mp made
  obtain ⟨tagged, rfl⟩ := ofTags_eq_ok read
  cases made
  exact ⟨serialization, value, tagged, mapError_eq_ok.mp typed, rfl⟩

theorem describesKey_of_keyKind {key : TypeDesc} {kind : FieldKind}
    (made : keyKind key = .ok kind) : key.DescribesKey (leaf "key" kind) := by
  refine ⟨rfl, ⟨rfl, rfl⟩, rfl, ?_⟩
  unfold keyKind at made
  dsimp only at made
  split at made
  · next isText =>
      cases made
      exact .inl ⟨isText, rfl⟩
  · next type isInt =>
      split at made
      · next signed =>
          cases made
          exact .inr ⟨type, isInt, signed, rfl⟩
      · cases made
  · cases made

/-! ## All depths -/

/-- If the types of members describe their fields, the members do. -/
theorem describeAll_of_related {members : List Member} {fields : List Field}
    (related : List.Forall₂ (fun member field => ofMember keys member = .ok field) members fields)
    (each : ∀ member ∈ members, ∀ value, ofType keys member.type = .ok value →
      member.type.Describes keys value.kind value.subfields) :
    Member.DescribeAll keys members fields := by
  induction related with
  | nil => exact .nil
  | cons made _ ih =>
      obtain ⟨first, rest⟩ := List.forall_mem_cons.mp each
      obtain ⟨serialization, value, read, typed, rfl⟩ := ofMember_eq_ok made
      exact .cons rfl rfl read (Serialization.isWireName_of_ofTags read) rfl (first value typed)
        (ih rest)

/-- The field that is made of a type is the one that the type describes, and nothing of
where it came from is left on it. -/
theorem describes_of_ofType {type : TypeDesc} (made : ofType keys type = .ok field) :
    field.IsBare ∧ type.Describes keys field.kind field.subfields := by
  induction type using TypeDesc.extractionInduction generalizing field with
  | simple type simple =>
      obtain ⟨name, module, shape⟩ := type
      cases shape with
      | bool =>
          cases made
          exact ⟨⟨rfl, rfl⟩, .bool name module⟩
      | string =>
          cases made
          exact ⟨⟨rfl, rfl⟩, .string name module⟩
      | int type =>
          cases made
          exact ⟨⟨rfl, rfl⟩, .int name module type⟩
      | float | char | unit | context | error => cases made
      | _ => exact simple.elim
  | pointer name module target ih =>
      have single := single_of_ofType made
      rw [ofType_pointer single] at made
      obtain ⟨bare, pointee⟩ := ih made
      exact ⟨bare, .pointer name module single pointee⟩
  | slice name module element ih =>
      rw [ofType_slice] at made
      obtain ⟨part, ofElement, made⟩ := bind_eq_ok.mp made
      obtain ⟨bare, elements⟩ := ih ofElement
      cases made
      exact ⟨⟨rfl, rfl⟩, .slice name module bare elements⟩
  | array name module element length ih =>
      rw [ofType_array] at made
      obtain ⟨part, ofElement, made⟩ := bind_eq_ok.mp made
      obtain ⟨bare, elements⟩ := ih ofElement
      cases made
      exact ⟨⟨rfl, rfl⟩, .array name module length bare elements⟩
  | map name module key value ih =>
      rw [ofType_map] at made
      obtain ⟨kind, ofKey, made⟩ := bind_eq_ok.mp made
      obtain ⟨part, ofValue, made⟩ := bind_eq_ok.mp made
      obtain ⟨⟨serialization, validation⟩, values⟩ := ih ofValue
      cases made
      exact ⟨⟨rfl, rfl⟩, .map name module (describesKey_of_keyKind ofKey) rfl
        ⟨serialization, validation⟩ values⟩
  | record name module members ih =>
      rw [ofType_members] at made
      obtain ⟨fields, ofMembers, made⟩ := bind_eq_ok.mp made
      cases made
      refine ⟨⟨rfl, rfl⟩, .record name module ?_⟩
      apply describeAll_of_related (mapM_eq_ok.mp ofMembers)
      intro member listed value typed
      exact (ih member listed typed).2

end Field

/-- The schema of a record has the name and the module of the record, and its fields are
those that the members of the record describe, once embedded records have given way to
their own members. -/
theorem Data.ofType_describes {name module : String} {members : List Member} {data : Data}
    (made : Data.ofType keys (.mk name module (.record members)) = .ok data) :
    data.name = name ∧ data.importPath = module ∧
      Member.DescribeAll keys (Member.flatten members) data.fields := by
  obtain ⟨record, ofRecord, made⟩ := bind_eq_ok.mp made
  obtain ⟨_, described⟩ := Field.describes_of_ofType ofRecord
  cases made
  exact ⟨rfl, rfl, Member.describeAll_of_record described⟩

/-! ### A catalog -/

namespace Catalog

/-- What requests for a part of a list have in common. -/
def page : TypeDesc :=
  .mk "Page" "example.com/paging" <| .record [
    .mk "Number" (.int .u32) ⟨[("as", "page,query")]⟩ false]

/-- An article under its names in several languages. -/
def article : TypeDesc :=
  .mk "Article" "example.com/shop" <| .record [
    .mk "Titles" (.map (.builtin "string" .string) (.builtin "string" .string))
      ⟨[("json", "titles,omitempty")]⟩ false]

/-- A page, and on it articles by their number in several warehouses. -/
def members : List Member := [
  .mk "Page" page Tags.empty true,
  .mk "Stock" (.slice (.map (.int .i64) (.pointer article)))
    ⟨[("json", "stock"), ("validate", "required,min=1")]⟩ false]

end Catalog

theorem Data.ofType_describes_catalog :
    ∃ data, Data.ofType {} (.mk "Catalog" "example.com/shop" (.record Catalog.members)) =
        .ok data ∧
      data.fields.map Field.name = ["Number", "Stock"] ∧
      Member.DescribeAll {} (Member.flatten Catalog.members) data.fields := by
  have made : Data.ofType {} (.mk "Catalog" "example.com/shop" (.record Catalog.members)) =
      .ok _ := rfl
  obtain ⟨_, _, all⟩ := Data.ofType_describes made
  exact ⟨_, made, rfl, all⟩

end RouteAtlas
