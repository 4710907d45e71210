/-
Module: RouteAtlas.Yaml.OfJson
Purpose: JSON values as nodes of a document.
Main exports: Yaml.Node.ofJson
-/
import RouteAtlas.Json.Value
import RouteAtlas.Yaml.Style

namespace RouteAtlas.Yaml.Node

mutual

/-- The node that stands for a value. -/
def ofJson : Json → Node
  | .null => .scalar ⟨true, "null"⟩
  | .bool true => .scalar ⟨true, "true"⟩
  | .bool false => .scalar ⟨true, "false"⟩
  | .int value => .scalar ⟨true, toString value⟩
  | .string text => .scalar (.ofText text)
  | .array items => .sequence (ofItems items)
  | .object members => .mapping (ofMembers members)

/-- The nodes of the items of an array. -/
def ofItems : List Json → List Node
  | [] => []
  | item :: rest => ofJson item :: ofItems rest

/-- The entries of the members of an object. -/
def ofMembers : List (String × Json) → List (Scalar × Node)
  | [] => []
  | (key, value) :: rest => (.ofText key, ofJson value) :: ofMembers rest

end

end RouteAtlas.Yaml.Node
