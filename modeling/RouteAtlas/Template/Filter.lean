/-
Module: RouteAtlas.Template.Filter
Purpose: The filters that templates may use.
Main exports: Template.RenderFault, Template.quote, Template.applyFilter
-/
import RouteAtlas.Template.Value
import RouteAtlas.Text.Casing

namespace RouteAtlas.Template

/-- Why a template cannot be rendered. -/
inductive RenderFault where
  | undefined
  | notIterable
  | unknownFilter (name : String)
  | wrongArgument (filter : String)
deriving Repr, DecidableEq

/-- The wording of a fault. -/
def RenderFault.message : RenderFault → String
  | .undefined => "undefined value"
  | .notIterable => "value is not iterable"
  | .unknownFilter name => "unknown filter: filter " ++ name ++ " is unknown"
  | .wrongArgument filter =>
      "invalid operation: wrong argument of filter " ++ filter

/-- A code point below 65536 as four hexadecimal digits. -/
def hex4 (code : Nat) : List Char :=
  let digit (value : Nat) : Char := Nat.digitChar (value % 16)
  [digit (code / 4096), digit (code / 256), digit (code / 16), digit code]

/-- Whether a character is a control character. -/
def isControl (c : Char) : Bool :=
  c.toNat < 0x20 || (0x7F ≤ c.toNat && c.toNat ≤ 0x9F)

/-- A character of a quoted text. -/
def quoteChar (c : Char) : List Char :=
  if c = '"' then ['\\', '"']
  else if c = '\\' then ['\\', '\\']
  else if c = '\n' then ['\\', 'n']
  else if c = '\r' then ['\\', 'r']
  else if c = '\t' then ['\\', 't']
  else if isControl c then '\\' :: 'u' :: hex4 c.toNat
  else [c]

/-- A text as a literal in double quotes, on one line. -/
def quote (text : String) : String :=
  String.ofList ('"' :: text.toList.flatMap quoteChar ++ ['"'])

/-- The mark of a pointer type. -/
def pointer (isPointer : Bool) : String :=
  if isPointer then "*" else ""

/-- Texts one after another, with the separator between them. -/
def join (separator : String) (texts : List String) : String :=
  separator.intercalate texts

/-- The result of a filter. -/
def applyFilter (name : String) (target : Json) (arguments : List Json) :
    Except RenderFault Json :=
  match name, target, arguments with
  | "quote", .string text, [] => .ok (.string (quote text))
  | "pointer", .bool isPointer, [] => .ok (.string (pointer isPointer))
  | "upper", value, [] => .ok (.string (Text.upper (print value)))
  | "lower", value, [] => .ok (.string (Text.lower (print value)))
  | "length", value, [] =>
      match length? value with
      | some length => .ok (.int length)
      | none => .error (.wrongArgument name)
  | "join", value, [] => joined value ""
  | "join", value, [.null] => joined value ""
  | "join", value, [separator] => joined value (print separator)
  | name, _, _ =>
      if ["quote", "pointer", "upper", "lower", "length", "join"].contains name
      then .error (.wrongArgument name)
      else .error (.unknownFilter name)
where
  /-- The items of a value, joined. -/
  joined (value : Json) (separator : String) : Except RenderFault Json :=
    match itemsOf? value with
    | some items => .ok (.string (join separator (items.map print)))
    | none => .error (.wrongArgument "join")

end RouteAtlas.Template
