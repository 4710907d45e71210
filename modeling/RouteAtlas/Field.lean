/-
Module: RouteAtlas.Field
Purpose: Fields of the records that requests and responses carry.
Main exports: IntType, FieldKind, Role, Serialization, Field, Data
-/

namespace RouteAtlas

/-- The width and sign an integer was declared with. -/
inductive IntType where
  | i8 | i16 | i32 | i64 | isize
  | u8 | u16 | u32 | u64 | usize
deriving Repr, DecidableEq, Inhabited

/-- The kind of a field.  A pointer has the kind of what it points to. -/
inductive FieldKind where
  | bool
  | string
  | integer (type : IntType)
  | array
  | record
  | map
deriving Repr, DecidableEq, Inhabited

/-- Where a field travels. -/
inductive Role where
  | json
  | query
  | path
  | header
  | cookie
deriving Repr, DecidableEq, Inhabited

/-- Where a field travels and under which name. -/
structure Serialization where
  role : Role
  name : String
deriving Repr, DecidableEq, Inhabited

/-- One member of a record, or one part of such a member.  An array has the
schema of its elements as its only subfield, a record has its members, and a
map has `key` and `value`. -/
structure Field where
  name : String
  kind : FieldKind
  serialization : Option Serialization
  /-- Validation rules as they were declared. -/
  validation : List String
  subfields : List Field
deriving Repr, Inhabited

/-- The schema of one record type; `importPath` is empty for a built-in type. -/
structure Data where
  name : String
  importPath : String
  fields : List Field
deriving Repr, Inhabited

namespace IntType

/-- Every integer type. -/
def all : List IntType :=
  [.i8, .i16, .i32, .i64, .isize, .u8, .u16, .u32, .u64, .usize]

/-- The name in dumps and messages. -/
def name : IntType → String
  | .i8 => "i8"
  | .i16 => "i16"
  | .i32 => "i32"
  | .i64 => "i64"
  | .isize => "isize"
  | .u8 => "u8"
  | .u16 => "u16"
  | .u32 => "u32"
  | .u64 => "u64"
  | .usize => "usize"

/-- Whether negative values are possible. -/
def isSigned : IntType → Bool
  | .i8 | .i16 | .i32 | .i64 | .isize => true
  | _ => false

end IntType

namespace FieldKind

/-- The name in messages. -/
def name : FieldKind → String
  | .bool => "bool"
  | .string => "string"
  | .integer type => type.name
  | .array => "array"
  | .record => "record"
  | .map => "map"

end FieldKind

namespace Role

/-- Every role, in ascending order. -/
def all : List Role := [.json, .query, .path, .header, .cookie]

/-- The roles that a role tag may name, in the order messages list them. -/
def explicit : List Role := [.path, .query, .header, .cookie]

/-- The name in dumps and messages. -/
def name : Role → String
  | .json => "JSON"
  | .query => "QUERY"
  | .path => "PATH"
  | .header => "HEADER"
  | .cookie => "COOKIE"

/-- The place of a role in ascending order. -/
def rank : Role → Nat
  | .json => 0
  | .query => 1
  | .path => 2
  | .header => 3
  | .cookie => 4

/-- A token with its ASCII letters in upper case. -/
def upperToken (token : String) : String :=
  String.ofList (token.toList.map Char.toUpper)

/-- The role a token names, in whatever case its ASCII letters are. -/
def parse? (token : String) : Option Role :=
  all.find? fun role => role.name == upperToken token

end Role

namespace Field

/-- The role of a field, if it travels on its own. -/
def role? (field : Field) : Option Role :=
  field.serialization.map (·.role)

/-- The name on the wire, else the declared name. -/
def wireName (field : Field) : String :=
  match field.serialization with
  | some serialization => serialization.name
  | none => field.name

/-- The rule that makes a field mandatory. -/
def requiredRule : String := "required"

/-- Whether a field is mandatory. -/
def isRequired (field : Field) : Bool :=
  field.validation.contains requiredRule

mutual

/-- Equality of fields is decided subfield by subfield. -/
def decEq : (one other : Field) → Decidable (one = other)
  | ⟨name, kind, serialization, validation, subfields⟩,
      ⟨name', kind', serialization', validation', subfields'⟩ =>
      match decEqList subfields subfields' with
      | isTrue same =>
          if rest : name = name' ∧ kind = kind' ∧
              serialization = serialization' ∧ validation = validation' then
            isTrue (by rw [rest.1, rest.2.1, rest.2.2.1, rest.2.2.2, same])
          else
            isFalse fun equal => rest <| by
              injection equal with h1 h2 h3 h4 _
              exact ⟨h1, h2, h3, h4⟩
      | isFalse differ => isFalse fun equal => differ (by injection equal)

/-- Equality of lists of fields. -/
def decEqList : (one other : List Field) → Decidable (one = other)
  | [], [] => isTrue rfl
  | [], _ :: _ => isFalse (by simp)
  | _ :: _, [] => isFalse (by simp)
  | field :: rest, field' :: rest' =>
      match decEq field field', decEqList rest rest' with
      | isTrue same, isTrue sameRest => isTrue (by rw [same, sameRest])
      | isFalse differ, _ => isFalse fun equal => differ (by injection equal)
      | _, isFalse differ => isFalse fun equal => differ (by injection equal)

end

instance : DecidableEq Field := decEq

end Field

deriving instance DecidableEq for Data

end RouteAtlas
