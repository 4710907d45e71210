/-
Module: RouteAtlas.Json.Value
Purpose: JSON values and how deep they nest.
Main exports: Json, Json.depth
-/

namespace RouteAtlas

/-- A JSON value.  Members keep their order, so that a written text is
determined by its value. -/
inductive Json where
  | null
  | bool (value : Bool)
  | int (value : Int)
  | string (value : String)
  | array (items : List Json)
  | object (members : List (String × Json))
deriving Repr, Inhabited

namespace Json

mutual

/-- How many arrays and objects enclose the innermost position of a value; an
empty array counts as one. -/
def depth : Json → Nat
  | .array items => itemsDepth items + 1
  | .object members => membersDepth members + 1
  | _ => 0

/-- The greatest depth among the items of an array. -/
def itemsDepth : List Json → Nat
  | [] => 0
  | item :: rest => max (depth item) (itemsDepth rest)

/-- The greatest depth among the members of an object. -/
def membersDepth : List (String × Json) → Nat
  | [] => 0
  | (_, value) :: rest => max (depth value) (membersDepth rest)

end

/-- An array of texts. -/
def strings (texts : List String) : Json :=
  .array (texts.map .string)

/-- A member that is left out when the list it holds is empty. -/
def memberUnlessEmpty (key : String) (items : List Json) :
    List (String × Json) :=
  if items.isEmpty then [] else [(key, .array items)]

/-- A member that is left out when the text it holds is empty. -/
def memberUnlessBlank (key text : String) : List (String × Json) :=
  if text = "" then [] else [(key, .string text)]

end Json

end RouteAtlas
