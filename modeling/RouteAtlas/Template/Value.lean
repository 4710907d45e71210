/-
Module: RouteAtlas.Template.Value
Purpose: How a template looks at values: their truth, their text, their parts.
Main exports: Template.Value, Template.isTrue, Template.print,
  Template.same, Template.itemsOf?
-/
import RouteAtlas.Dictionary
import RouteAtlas.Json.Value
import RouteAtlas.Text.Shown

namespace RouteAtlas.Template

/-- The value of an expression; what is not defined has none. -/
abbrev Value := Option Json

/-- Whether a value counts as true: a number unless it is zero, and a text, a
list or an object unless it is empty. -/
def isTrue : Json → Bool
  | .null => false
  | .bool value => value
  | .int value => value != 0
  | .string text => text != ""
  | .array items => !items.isEmpty
  | .object members => !members.isEmpty

/-- The number that a truth value or a number stands for. -/
def asNumber? : Json → Option Int
  | .bool value => some (if value then 1 else 0)
  | .int value => some value
  | _ => none

mutual

/-- How a value is written inside a list or an object. -/
def printInside : Json → String
  | .null => "None"
  | .bool true => "True"
  | .bool false => "False"
  | .int value => toString value
  | .string text => Text.shown text
  | .array items => "[" ++ ", ".intercalate (printItems items) ++ "]"
  | .object members =>
      let parts := Dictionary.ofList (printMembers members)
      "\x7b" ++
        ", ".intercalate
          (parts.map fun (key, text) => Text.shown key ++ ": " ++ text) ++
        "\x7d"

/-- How the items of a list are written. -/
def printItems : List Json → List String
  | [] => []
  | item :: rest => printInside item :: printItems rest

/-- How the members of an object are written. -/
def printMembers : List (String × Json) → List (String × String)
  | [] => []
  | (key, value) :: rest => (key, printInside value) :: printMembers rest

end

/-- How a value is written.  A text by itself has no quotes. -/
def print : Json → String
  | .string text => text
  | value => printInside value

mutual

/-- Whether two values are the same.  A truth value is the same as the number
it stands for. -/
def same : Json → Json → Bool
  | .null, .null => true
  | .string one, .string other => one == other
  | .array one, .array other => sameItems one other
  | .object one, .object other =>
      one.length == other.length && sameMembers one other
  | one, other =>
      match asNumber? one, asNumber? other with
      | some one, some other => one == other
      | _, _ => false

/-- Whether two lists have the same items. -/
def sameItems : List Json → List Json → Bool
  | [], [] => true
  | item :: rest, other :: others => same item other && sameItems rest others
  | _, _ => false

/-- Whether every member is the same in another object. -/
def sameMembers : List (String × Json) → List (String × Json) → Bool
  | [], _ => true
  | (key, value) :: rest, others =>
      (match others.lookup key with
        | some other => same value other
        | none => false) && sameMembers rest others

end

/-- Whether two values, which need not be defined, are the same. -/
def sameValue : Value → Value → Bool
  | none, none => true
  | some one, some other => same one other
  | _, _ => false

/-- The names of the members of an object in ascending order. -/
def memberNames (members : List (String × Json)) : List String :=
  (Dictionary.ofList members).map (·.1)

/-- The items that a repetition goes through: those of a list, the names of
the members of an object, the characters of a text, and nothing of `null`. -/
def itemsOf? : Json → Option (List Json)
  | .null => some []
  | .array items => some items
  | .object members => some ((memberNames members).map .string)
  | .string text =>
      some (text.toList.map fun c => .string (String.ofList [c]))
  | _ => none

/-- How many items or characters a value has. -/
def length? : Json → Option Nat
  | .string text => some text.length
  | .array items => some items.length
  | .object members => some (memberNames members).length
  | _ => none

/-- A member of an object. -/
def attributeOf (name : String) : Json → Value
  | .object members => members.lookup name
  | _ => none

/-- The place in a sequence of the given length that an index denotes; a
negative one counts from the end. -/
def placeOf? (length : Nat) (index : Int) : Option Nat :=
  if 0 ≤ index then some index.toNat
  else if -index ≤ length then some (length + index).toNat
  else none

/-- An item of a list or a text by its place, or a member by its name. -/
def itemOf (index : Json) : Json → Value
  | .array items =>
      match index with
      | .int value => (placeOf? items.length value).bind fun place => items[place]?
      | _ => none
  | .string text =>
      match index with
      | .int value => do
          let place ← placeOf? text.length value
          let c ← text.toList[place]?
          return .string (String.ofList [c])
      | _ => none
  | .object members =>
      match index with
      | .string name => members.lookup name
      | _ => none
  | _ => none

end RouteAtlas.Template
