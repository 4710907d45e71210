/-
Module: RouteAtlas.Json.Printer
Purpose: The two written forms of a JSON value.
Main exports: Json.compact, Json.pretty
-/
import RouteAtlas.Json.Value

namespace RouteAtlas.Json

/-- One character of a string literal: a quote, a backslash and the controls
below U+0020 are escaped and nothing else. -/
def escapeChar (c : Char) : List Char :=
  if c = '"' then ['\\', '"']
  else if c = '\\' then ['\\', '\\']
  else if c.toNat = 8 then ['\\', 'b']
  else if c.toNat = 12 then ['\\', 'f']
  else if c = '\n' then ['\\', 'n']
  else if c = '\r' then ['\\', 'r']
  else if c = '\t' then ['\\', 't']
  else if c.toNat < 0x20 then
    ['\\', 'u', '0', '0', Nat.digitChar (c.toNat / 16), Nat.digitChar (c.toNat % 16)]
  else [c]

/-- A string literal. -/
def literal (s : String) : List Char :=
  '"' :: s.toList.flatMap escapeChar ++ ['"']

/-- The text of a value that holds no other value. -/
def scalarText : Json → List Char
  | .null => ['n', 'u', 'l', 'l']
  | .bool true => ['t', 'r', 'u', 'e']
  | .bool false => ['f', 'a', 'l', 's', 'e']
  | .int value => (toString value).toList
  | .string value => literal value
  | .array _ => ['[', ']']
  | .object _ => ['\x7b', '\x7d']

mutual

/-- The text without blanks. -/
def compactText : Json → List Char
  | .array items => '[' :: compactItems items ++ [']']
  | .object members => '\x7b' :: compactMembers members ++ ['\x7d']
  | scalar => scalarText scalar

/-- The items of an array with commas between them. -/
def compactItems : List Json → List Char
  | [] => []
  | [item] => compactText item
  | item :: rest => compactText item ++ ',' :: compactItems rest

/-- The members of an object with commas between them. -/
def compactMembers : List (String × Json) → List Char
  | [] => []
  | [(key, value)] => literal key ++ ':' :: compactText value
  | (key, value) :: rest =>
      literal key ++ ':' :: compactText value ++ ',' :: compactMembers rest

end

/-- A new line, indented by two blanks for each level. -/
def newLine (level : Nat) : List Char :=
  '\n' :: List.replicate (2 * level) ' '

mutual

/-- The indented text of a value that starts at a level. -/
def prettyText (level : Nat) : Json → List Char
  | .array (item :: rest) =>
      '[' :: prettyItems (level + 1) (item :: rest) ++ newLine level ++ [']']
  | .object (member :: rest) =>
      '\x7b' :: prettyMembers (level + 1) (member :: rest) ++ newLine level ++
        ['\x7d']
  | scalar => scalarText scalar

/-- The items of an array, each on lines of its own. -/
def prettyItems (level : Nat) : List Json → List Char
  | [] => []
  | [item] => newLine level ++ prettyText level item
  | item :: rest =>
      newLine level ++ prettyText level item ++ ',' :: prettyItems level rest

/-- The members of an object, each on lines of its own. -/
def prettyMembers (level : Nat) : List (String × Json) → List Char
  | [] => []
  | [(key, value)] =>
      newLine level ++ literal key ++ ':' :: ' ' :: prettyText level value
  | (key, value) :: rest =>
      newLine level ++ literal key ++ ':' :: ' ' :: prettyText level value ++
        ',' :: prettyMembers level rest

end

/-- The text of a value on one line without blanks. -/
def compact (value : Json) : String :=
  String.ofList (compactText value)

/-- The text of a value with two blanks of indentation per level; an empty
array or object stays on its line. -/
def pretty (value : Json) : String :=
  String.ofList (prettyText 0 value)

end RouteAtlas.Json
