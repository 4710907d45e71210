/-
Module: RouteAtlas.Extraction.Serialization
Purpose: What the tags of a record member say about how it travels.
Main exports: TagKeys, Serialization.ofTags, TagKeys.validation
-/
import RouteAtlas.Error
import RouteAtlas.Field
import RouteAtlas.Text.Split
import RouteAtlas.Types.Tags

namespace RouteAtlas

/-- The keys of the tags that say where a member travels, under which name,
and how it is validated. -/
structure TagKeys where
  role : String := "as"
  name : String := "json"
  validate : String := "validate"
deriving Repr, DecidableEq, Inhabited

namespace Serialization

/-- The characters of a name on the wire. -/
def isWireChar (c : Char) : Bool :=
  c.isLower || c == '-' || c == '_'

/-- Refuse a name that may not stand on the wire. -/
def checkName (name : String) : Except Error Unit :=
  if name ≠ "" ∧ name.toList.all isWireChar then
    .ok ()
  else
    .error (.wrongFormat name "lowercase a-z, '-' and '_'")

/-- The role that a role tag names. -/
def explicitRole (token : String) : Except Error Role :=
  match Role.explicit.find? (·.name == Role.upperToken token) with
  | some role => .ok role
  | none =>
      .error <| .notAllowed "serialization type" (Role.upperToken token) <|
        ", ".intercalate (Role.explicit.map Role.name)

/-- The value of a role tag: a name and a role with a comma between them. -/
def ofRoleTag (value : String) : Except Error Serialization := do
  match Text.splitText ',' value with
  | [name, token] =>
      checkName name
      let role ← explicitRole token
      return { role, name }
  | parts =>
      .error (.wrongValue "number of tag values" (toString parts.length) "2")

/-- The value of a name tag: a name, perhaps followed by a comma and more. -/
def ofNameTag : Option String → Except Error Serialization
  | none => .error (.wrongValue "tag value" "" "serialization_name")
  | some value => do
      let name := String.ofList (value.toList.takeWhile (· != ','))
      checkName name
      return { role := .json, name }

/-- How a member travels.  A role tag decides alone; without one the name tag
does. -/
def ofTags (keys : TagKeys) (tags : Tags) : Except Error Serialization :=
  match tags.get? keys.role with
  | some value =>
      (ofRoleTag value).mapError <|
        Error.duringOnWanting "parse tag" keys.role
          "<serialization_name>,(path|query|header|cookie)"
  | none =>
      (ofNameTag (tags.get? keys.name)).mapError <|
        Error.duringOnWanting "parse tag" keys.name "<serialization_name>,..."

end Serialization

/-- The validation rules that tags declare. -/
def TagKeys.validation (keys : TagKeys) (tags : Tags) : List String :=
  match tags.get? keys.validate with
  | none => []
  | some value => Text.splitText ',' value

end RouteAtlas
