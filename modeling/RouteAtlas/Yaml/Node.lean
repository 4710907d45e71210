/-
Module: RouteAtlas.Yaml.Node
Purpose: What a YAML document holds.
Main exports: Yaml.Scalar, Yaml.Node
-/

namespace RouteAtlas.Yaml

/-- A scalar; only one without quotes can stand for something else than a
text. -/
structure Scalar where
  plain : Bool
  text : String
deriving Repr, DecidableEq, Inhabited

/-- What stands where nothing is written. -/
def Scalar.empty : Scalar := ⟨true, ""⟩

/-- A node of a document.  Anchors, aliases, tags, directives, keys after a question mark and keys
that are collections are left out; a text with one of them is not read. -/
inductive Node where
  | scalar (scalar : Scalar)
  | sequence (items : List Node)
  | mapping (entries : List (Scalar × Node))
deriving Repr, Inhabited

/-- The node that stands where nothing is written. -/
def Node.empty : Node := .scalar .empty

end RouteAtlas.Yaml
