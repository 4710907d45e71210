/-
Module: RouteAtlas.Extraction.Fields
Purpose: From the description of a record type to its schema.
Main exports: TypeDesc.fieldType, Field.ofType, Data.ofType
-/
import RouteAtlas.Extraction.Serialization
import RouteAtlas.Types.Desc

namespace RouteAtlas

namespace TypeDesc

/-- Refuse a type of a kind that no field has. -/
def expectFieldKind (type : TypeDesc) : Except Error TypeDesc :=
  match type.shape with
  | .float => .error (.floatNotAllowed type.display)
  | .bool | .string | .int _ | .slice _ | .array _ _ | .record _ | .map _ _ => .ok type
  | _ =>
      .error <| .notAllowed "type" type.display
        "bool, string, int, uint, array, slice, record, map"

/-- The type that makes a field out of a type: what it points to, if it is a
pointer, else the type itself. -/
def fieldType (type : TypeDesc) : Except Error TypeDesc :=
  match type.shape with
  | .pointer target =>
      match target.shape with
      | .pointer _ => .error (.singlePointerRequired type.display)
      | _ => target.expectFieldKind
  | _ => type.expectFieldKind

end TypeDesc

namespace Field

/-- A field that has nothing below it and does not travel on its own. -/
def leaf (name : String) (kind : FieldKind) : Field :=
  ⟨name, kind, none, [], []⟩

/-- The kind of the keys of a map: texts or signed integers. -/
def keyKind (key : TypeDesc) : Except Error FieldKind :=
  let refused :=
    Error.notAllowed "map key type" key.display "string, int"
  match key.shape with
  | .string => .ok .string
  | .int type => if type.isSigned then .ok (.integer type) else .error refused
  | _ => .error refused

/-- The tags of a member, as they are understood. -/
def ofTags (keys : TagKeys) (member : Member) :
    Except Error (Serialization × List String) :=
  match Serialization.ofTags keys member.tags with
  | .error error =>
      .error <| (error.during "parse serialization").duringOn "parse field tag"
        member.name
  | .ok serialization => .ok (serialization, keys.validation member.tags)

mutual

/-- The field that a type describes.  A value may be behind one pointer. -/
def ofType (keys : TagKeys) : TypeDesc → Except Error Field
  | .mk name module (.pointer (.mk inner innerModule shape)) => do
      let _ ← TypeDesc.fieldType (.mk name module (.pointer (.mk inner innerModule shape)))
      ofShape keys inner shape
  | .mk name module shape => do
      let _ ← TypeDesc.fieldType (.mk name module shape)
      ofShape keys name shape

/-- The field that a type with a name describes by its shape, which must be one
that fields can have. -/
def ofShape (keys : TagKeys) (name : String) : Shape → Except Error Field
  | .bool => .ok (leaf "" .bool)
  | .string => .ok (leaf "" .string)
  | .int type => .ok (leaf "" (.integer type))
  | .slice element => do
      let element ← ofType keys element
      return { leaf "" .array with subfields := [element] }
  | .array element _ => do
      let element ← ofType keys element
      return { leaf "" .array with subfields := [element] }
  | .record members => do
      let subfields ← ofMembers keys members
      return { leaf name .record with subfields }
  | .map key value => do
      let kind ← keyKind key
      let value ← ofType keys value
      return { leaf "" .map with
        subfields := [leaf "key" kind, { value with name := "value" }] }
  | _ => .error (.unreachable "field kind dispatch")

/-- The fields that the members of a record describe.  The members of an
embedded record take its place; its own name and tags do not matter. -/
def ofMembers (keys : TagKeys) : List Member → Except Error (List Field)
  | [] => .ok []
  | .mk _ (.mk _ _ (.record members)) _ true :: rest => do
      let spliced ← ofMembers keys members
      let others ← ofMembers keys rest
      return spliced ++ others
  | .mk name type tags embedded :: rest => do
      let (serialization, validation) ← ofTags keys (.mk name type tags embedded)
      let value ← (ofType keys type).mapError
        (Error.duringOn "parse body field" name)
      let others ← ofMembers keys rest
      return {
        name
        kind := value.kind
        serialization := some serialization
        validation
        subfields := value.subfields } :: others

end

end Field

/-- The schema of a record type. -/
def Data.ofType (keys : TagKeys) (type : TypeDesc) : Except Error Data :=
  if type.isRecord then do
    let record ← Field.ofType keys type
    return { name := type.name, importPath := type.module, fields := record.subfields }
  else
    .error (.invalidParam type.display "record")

end RouteAtlas
