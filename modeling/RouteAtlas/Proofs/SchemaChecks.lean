/-
Module: RouteAtlas.Proofs.SchemaChecks
Purpose: From which record types a schema is made, and whose fault is reported when
  several of their parts are refused.
Main exports: Member.flatten, TypeDesc.IsExtractable, TypeDesc.Check, TypeDesc.checks,
  Field.ofType_faultsFirst, Data.ofType_record
-/
import RouteAtlas.Extraction.Fields
import RouteAtlas.Proofs.Fallible

namespace RouteAtlas

open Fallible

/-! ## Extractable types -/

/-- The members of a record, where those of an embedded record take the place of
the member that embeds it. -/
def Member.flatten : List Member → List Member
  | [] => []
  | .mk _ (.mk _ _ (.record members)) _ true :: rest => flatten members ++ flatten rest
  | member :: rest => member :: flatten rest

/-- The tags of a member say how it travels. -/
def Member.IsTagged (keys : TagKeys) (member : Member) : Prop :=
  ∃ serialization, Serialization.ofTags keys member.tags = .ok serialization

namespace TypeDesc

/-- A text or a signed integer, not behind a pointer. -/
def IsMapKey (key : TypeDesc) : Prop :=
  key.shape = .string ∨ ∃ type, key.shape = .int type ∧ type.isSigned = true

/-- The types of which fields are made. -/
inductive IsExtractable (keys : TagKeys) : TypeDesc → Prop where
  | bool (name module : String) : IsExtractable keys (.mk name module .bool)
  | string (name module : String) : IsExtractable keys (.mk name module .string)
  | int (name module : String) (type : IntType) :
      IsExtractable keys (.mk name module (.int type))
  | slice (name module : String) {element : TypeDesc}
      (elements : IsExtractable keys element) :
      IsExtractable keys (.mk name module (.slice element))
  | array (name module : String) {element : TypeDesc} (length : Nat)
      (elements : IsExtractable keys element) :
      IsExtractable keys (.mk name module (.array element length))
  | map (name module : String) {key value : TypeDesc} (isKey : key.IsMapKey)
      (values : IsExtractable keys value) :
      IsExtractable keys (.mk name module (.map key value))
  | record (name module : String) {members : List Member}
      (tagged : ∀ member ∈ Member.flatten members, member.IsTagged keys)
      (types : ∀ member ∈ Member.flatten members, IsExtractable keys member.type) :
      IsExtractable keys (.mk name module (.record members))
  | pointer (name module : String) {target : TypeDesc}
      (single : ∀ inner, target.shape ≠ .pointer inner)
      (pointee : IsExtractable keys target) :
      IsExtractable keys (.mk name module (.pointer target))

/-! ## Checks -/

/-- One thing that is asked of a type. -/
inductive Check where
  /-- A type is one of those that fields have, behind one pointer at most. -/
  | kind (type : TypeDesc)
  /-- The keys of a map are texts or signed integers. -/
  | key (type : TypeDesc)
  /-- The tags of a member say how it travels. -/
  | tags (member : Member)
  /-- Something that is asked of the type of a member. -/
  | within (name : String) (check : Check)

/-- What is reported if a check is not passed. -/
def Check.fault? (keys : TagKeys) : Check → Option Error
  | .kind type => Fallible.fault? type.fieldType
  | .key type => Fallible.fault? (Field.keyKind type)
  | .tags member => Fallible.fault? (Field.ofTags keys member)
  | .within name check => (check.fault? keys).map (Error.duringOn "parse body field" name)

end TypeDesc

open TypeDesc (Check)

mutual

/-- All that is asked of a type: first of itself, then of what it is made of, in
the order of declaration. -/
def TypeDesc.checks : TypeDesc → List Check
  | .mk name module shape => .kind (.mk name module shape) :: shape.checks

/-- All that is asked of what a type of a shape is made of. -/
def Shape.checks : Shape → List Check
  | .pointer target => target.checks
  | .slice element => element.checks
  | .array element _ => element.checks
  | .map key value => .key key :: value.checks
  | .record members => Member.checks members
  | _ => []

/-- All that is asked of the members of a record. -/
def Member.checks : List Member → List Check
  | [] => []
  | .mk _ (.mk _ _ (.record members)) _ true :: rest =>
      Member.checks members ++ Member.checks rest
  | .mk name type tags embedded :: rest =>
      .tags (.mk name type tags embedded) :: type.checks.map (.within name) ++
        Member.checks rest

end

/-! ## Members -/

namespace Member

theorem sizeOf_type_of_mem_flatten {members : List Member} {member : Member}
    (listed : member ∈ flatten members) : sizeOf member.type < sizeOf members := by
  fun_induction flatten members with
  | case1 => cases listed
  | case2 name inner module members tags rest ofEmbedded ofRest =>
      rcases List.mem_append.mp listed with listed | listed
      · have := ofEmbedded listed
        simp only [List.cons.sizeOf_spec, Member.mk.sizeOf_spec, TypeDesc.mk.sizeOf_spec,
          Shape.record.sizeOf_spec]
        omega
      · have := ofRest listed
        simp only [List.cons.sizeOf_spec]
        omega
  | case3 first rest _ ofRest =>
      rcases List.mem_cons.mp listed with rfl | listed
      · obtain ⟨name, declared, tags, embedded⟩ := member
        simp only [List.cons.sizeOf_spec, Member.mk.sizeOf_spec, Member.type]
        omega
      · have := ofRest listed
        simp only [List.cons.sizeOf_spec]
        omega

/-- What is asked of members is asked of each of them in turn, first of its tags and
then of its type. -/
theorem checks_eq_flatMap (members : List Member) :
    checks members = (flatten members).flatMap fun member =>
      .tags member :: member.type.checks.map (.within member.name) := by
  fun_induction flatten members with
  | case1 => rfl
  | case2 name inner module members tags rest ofEmbedded ofRest =>
      rw [checks, ofEmbedded, ofRest, List.flatMap_append]
  | case3 first rest plain ofRest =>
      obtain ⟨name, type, tags, embedded⟩ := first
      rw [checks, ofRest, List.flatMap_cons]
      · rfl
      · rintro inner module members rfl rfl
        exact plain _ _ _ _ _ rfl

end Member

namespace Field

/-- The field that a member describes. -/
def ofMember (keys : TagKeys) (member : Member) : Except Error Field := do
  let (serialization, validation) ← ofTags keys member
  let value ← (ofType keys member.type).mapError
    (Error.duringOn "parse body field" member.name)
  return ⟨member.name, value.kind, some serialization, validation, value.subfields⟩

theorem ofMembers_eq_mapM (keys : TagKeys) (members : List Member) :
    ofMembers keys members = (Member.flatten members).mapM (ofMember keys) := by
  fun_induction Member.flatten members with
  | case1 => rfl
  | case2 name inner module members tags rest ofEmbedded ofRest =>
      rw [ofMembers, ofEmbedded, ofRest, List.mapM_append]
  | case3 first rest plain ofRest =>
      obtain ⟨name, type, tags, embedded⟩ := first
      rw [ofMembers, ofRest, List.mapM_cons, ofMember]
      · cases ofTags keys (.mk name type tags embedded) with
        | error _ => rfl
        | ok both =>
            rw [Member.type]
            cases ofType keys type with
            | error _ => rfl
            | ok _ => rfl
      · rintro inner module members rfl rfl
        exact plain _ _ _ _ _ rfl

end Field

/-! ## Types -/

namespace TypeDesc

/-- Neither a pointer nor made of other types. -/
def IsSimple (type : TypeDesc) : Prop :=
  match type.shape with
  | .pointer _ | .slice _ | .array _ _ | .map _ _ | .record _ => False
  | _ => True

/-- Induction over a type and all those that its field is made from.  Those of a record
are the types of its members after embedding. -/
@[elab_as_elim]
theorem extractionInduction {motive : TypeDesc → Prop}
    (simple : ∀ type : TypeDesc, type.IsSimple → motive type)
    (pointer : ∀ name module target, motive target → motive (.mk name module (.pointer target)))
    (slice : ∀ name module element, motive element → motive (.mk name module (.slice element)))
    (array : ∀ name module element length, motive element →
      motive (.mk name module (.array element length)))
    (map : ∀ name module key value, motive value → motive (.mk name module (.map key value)))
    (record : ∀ name module members, (∀ member ∈ Member.flatten members, motive member.type) →
      motive (.mk name module (.record members)))
    (type : TypeDesc) : motive type := by
  induction size : sizeOf type using Nat.strongRecOn generalizing type with
  | ind bound ih =>
      subst size
      obtain ⟨name, module, shape⟩ := type
      cases shape with
      | pointer target => exact pointer _ _ _ (ih _ (by simp; omega) _ rfl)
      | slice element => exact slice _ _ _ (ih _ (by simp; omega) _ rfl)
      | array element length => exact array _ _ _ _ (ih _ (by simp; omega) _ rfl)
      | map key value => exact map _ _ _ _ (ih _ (by simp; omega) _ rfl)
      | record members =>
          refine record _ _ _ fun member listed => ih _ ?_ _ rfl
          have smaller := Member.sizeOf_type_of_mem_flatten listed
          simp
          omega
      | _ => exact simple _ trivial

end TypeDesc

namespace Field

variable {keys : TagKeys}

theorem ofMember_faultsFirst {member : Member}
    (first : FaultsFirst (Check.fault? keys) member.type.checks (ofType keys member.type)) :
    FaultsFirst (Check.fault? keys) (.tags member :: member.type.checks.map (.within member.name))
      (ofMember keys member) := by
  have tags : FaultsFirst (Check.fault? keys) [.tags member] (ofTags keys member) := .single rfl
  have type : FaultsFirst (Check.fault? keys) (member.type.checks.map (.within member.name))
      ((ofType keys member.type).mapError (Error.duringOn "parse body field" member.name)) :=
    first.mapError fun _ => rfl
  exact tags.bind fun _ _ => type.map _

theorem ofMembers_faultsFirst {members : List Member}
    (each : ∀ member ∈ Member.flatten members,
      FaultsFirst (Check.fault? keys) member.type.checks (ofType keys member.type)) :
    FaultsFirst (Check.fault? keys) (Member.checks members) (ofMembers keys members) := by
  rw [ofMembers_eq_mapM, Member.checks_eq_flatMap]
  exact .mapM fun member listed => ofMember_faultsFirst (each member listed)

/-- The field of a type is refused for the first check of the type that is not
passed. -/
theorem ofType_faultsFirst (keys : TagKeys) (type : TypeDesc) :
    FaultsFirst (Check.fault? keys) type.checks (ofType keys type) := by
  induction type using TypeDesc.extractionInduction with
  | simple type simple =>
      obtain ⟨name, module, shape⟩ := type
      cases shape <;> first | exact .single rfl | exact simple.elim
  | pointer name module target ih =>
      obtain ⟨inner, innerModule, shape⟩ := target
      cases shape with
      | pointer deep => exact .refused rfl rfl
      | _ =>
          -- The kind behind the pointer is asked for twice, with the same outcome.
          exact .repeated rfl ih
  | slice name module element ih => exact .passed rfl (ih.map _)
  | array name module element length ih => exact .passed rfl (ih.map _)
  | map name module key value ih =>
      have kind : FaultsFirst (Check.fault? keys) [.key key] (keyKind key) := .single rfl
      exact .passed rfl (kind.bind fun _ _ => ih.map _)
  | record name module members ih => exact .passed rfl ((ofMembers_faultsFirst ih).map _)

end Field

/-! ## Acceptance -/

theorem Field.keyKind_succeeds_iff {key : TypeDesc} :
    (∃ kind, Field.keyKind key = .ok kind) ↔ key.IsMapKey := by
  unfold Field.keyKind TypeDesc.IsMapKey
  split
  · next isText => simp [isText]
  · next type isInt => by_cases signed : type.isSigned = true <;> simp [isInt, signed]
  · next notText notInt =>
      constructor
      · rintro ⟨_, refused⟩
        cases refused
      · rintro (isText | ⟨type, isInt, _⟩)
        · exact (notText isText).elim
        · exact (notInt type isInt).elim

theorem Field.ofTags_succeeds_iff {keys : TagKeys} {member : Member} :
    (∃ tags, Field.ofTags keys member = .ok tags) ↔ member.IsTagged keys := by
  unfold Field.ofTags Member.IsTagged
  cases Serialization.ofTags keys member.tags <;> simp

/-- All checks of the members of a record are passed when the members are tagged and
all checks of their types are passed. -/
theorem Member.checks_passed_iff {keys : TagKeys} {members : List Member} :
    (∀ check ∈ Member.checks members, check.fault? keys = none) ↔
      (∀ member ∈ flatten members, member.IsTagged keys) ∧
        ∀ member ∈ flatten members, ∀ check ∈ member.type.checks, check.fault? keys = none := by
  rw [Member.checks_eq_flatMap, List.forall_mem_flatMap, ← forall₂_and]
  refine forall₂_congr fun member _ => ?_
  rw [List.forall_mem_cons, List.forall_mem_map, Check.fault?, fault?_eq_none_iff,
    Field.ofTags_succeeds_iff]
  simp only [Check.fault?, Option.map_eq_none_iff]

namespace TypeDesc

variable {keys : TagKeys} {type : TypeDesc}

theorem checks_passed_iff {name module : String} {shape : Shape} :
    (∀ check ∈ checks (.mk name module shape), check.fault? keys = none) ↔
      (∃ plain, fieldType (.mk name module shape) = .ok plain) ∧
        ∀ check ∈ shape.checks, check.fault? keys = none := by
  rw [checks, List.forall_mem_cons, Check.fault?, fault?_eq_none_iff]

theorem fieldType_pointer {name module : String} {target : TypeDesc}
    (single : ∀ inner, target.shape ≠ .pointer inner) :
    fieldType (.mk name module (.pointer target)) = target.fieldType := by
  obtain ⟨inner, innerModule, shape⟩ := target
  cases shape with
  | pointer deep => exact absurd rfl (single deep)
  | _ => rfl

theorem single_of_fieldType {name module : String} {target plain : TypeDesc}
    (passes : fieldType (.mk name module (.pointer target)) = .ok plain) :
    ∀ inner, target.shape ≠ .pointer inner := by
  obtain ⟨inner, innerModule, shape⟩ := target
  rintro deep rfl
  cases passes

/-- The types of which fields are made are those that pass all checks. -/
theorem isExtractable_iff :
    type.IsExtractable keys ↔ ∀ check ∈ type.checks, check.fault? keys = none := by
  induction type using extractionInduction with
  | simple type simple =>
      obtain ⟨name, module, shape⟩ := type
      rw [checks_passed_iff]
      have alone : ∀ check ∈ ([] : List Check), check.fault? keys = none := by simp
      cases shape with
      | bool => exact ⟨fun _ => ⟨⟨_, rfl⟩, alone⟩, fun _ => .bool name module⟩
      | string => exact ⟨fun _ => ⟨⟨_, rfl⟩, alone⟩, fun _ => .string name module⟩
      | int type => exact ⟨fun _ => ⟨⟨_, rfl⟩, alone⟩, fun _ => .int name module type⟩
      | float | char | unit | context | error =>
          exact ⟨fun extractable => (nomatch extractable), fun ⟨⟨_, refused⟩, _⟩ => nomatch refused⟩
      | _ => exact simple.elim
  | pointer name module target ih =>
      rw [checks_passed_iff, Shape.checks, ← ih]
      constructor
      · rintro (_ | _ | _ | _ | _ | _ | _ | ⟨_, _, single, pointee⟩)
        rw [fieldType_pointer single]
        obtain ⟨inner, innerModule, shape⟩ := target
        exact ⟨(checks_passed_iff.mp (ih.mp pointee)).1, pointee⟩
      · rintro ⟨⟨plain, passes⟩, pointee⟩
        exact .pointer name module (single_of_fieldType passes) pointee
  | slice name module element ih =>
      rw [checks_passed_iff, Shape.checks, ← ih]
      constructor
      · rintro (_ | _ | _ | ⟨_, _, elements⟩)
        exact ⟨⟨_, rfl⟩, elements⟩
      · rintro ⟨_, elements⟩
        exact .slice name module elements
  | array name module element length ih =>
      rw [checks_passed_iff, Shape.checks, ← ih]
      constructor
      · rintro (_ | _ | _ | _ | ⟨_, _, _, elements⟩)
        exact ⟨⟨_, rfl⟩, elements⟩
      · rintro ⟨_, elements⟩
        exact .array name module length elements
  | map name module key value ih =>
      rw [checks_passed_iff, Shape.checks, List.forall_mem_cons, Check.fault?,
        fault?_eq_none_iff, Field.keyKind_succeeds_iff, ← ih]
      constructor
      · rintro (_ | _ | _ | _ | _ | ⟨_, _, isKey, values⟩)
        exact ⟨⟨_, rfl⟩, isKey, values⟩
      · rintro ⟨_, isKey, values⟩
        exact .map name module isKey values
  | record name module members ih =>
      rw [checks_passed_iff, Shape.checks, Member.checks_passed_iff]
      constructor
      · rintro (_ | _ | _ | _ | _ | _ | ⟨_, _, tagged, types⟩)
        exact ⟨⟨_, rfl⟩, tagged, fun member listed => (ih member listed).mp (types member listed)⟩
      · rintro ⟨_, tagged, types⟩
        exact .record name module tagged fun member listed =>
          (ih member listed).mpr (types member listed)

end TypeDesc

theorem Data.ofType_faultsFirst (keys : TagKeys) (name module : String) (members : List Member) :
    FaultsFirst (Check.fault? keys) (Member.checks members)
      (Data.ofType keys (.mk name module (.record members))) :=
  have fields := Field.ofMembers_faultsFirst fun member _ =>
    Field.ofType_faultsFirst keys member.type
  (fields.map _).map _

/-- A schema is made of a record exactly when the record is extractable.  Otherwise it
is refused for the first thing that is asked in vain.  What is asked of a record is
asked of its members, after embedding, in their order: first that the tags of a member
say how it travels, and then whatever is asked of its type, where the keys of a map come
before its values. -/
theorem Data.ofType_record (keys : TagKeys) (name module : String) (members : List Member) :
    ((∃ data, Data.ofType keys (.mk name module (.record members)) = .ok data) ↔
        (TypeDesc.mk name module (.record members)).IsExtractable keys) ∧
      ∀ error, Data.ofType keys (.mk name module (.record members)) = .error error ↔
        ∃ before check after,
          ((Member.flatten members).flatMap fun member =>
            .tags member :: member.type.checks.map (.within member.name)) =
              before ++ check :: after ∧
          Check.fault? keys check = some error ∧
          ∀ earlier ∈ before, Check.fault? keys earlier = none := by
  have first := Data.ofType_faultsFirst keys name module members
  refine ⟨?_, fun error => ?_⟩
  · rw [first.succeeds_iff, TypeDesc.isExtractable_iff, TypeDesc.checks_passed_iff]
    exact ⟨fun passed => ⟨⟨_, rfl⟩, passed⟩, fun passed => passed.2⟩
  · rw [← Member.checks_eq_flatMap]
    exact first.eq_error_iff

end RouteAtlas
