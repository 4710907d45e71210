/-
Module: RouteAtlas.Yaml.Style
Purpose: The way in which a text is written as a scalar.
Main exports: Yaml.Style, Yaml.Style.ofText, Yaml.Scalar.ofText
-/
import RouteAtlas.Yaml.Cursor
import RouteAtlas.Yaml.Kind

namespace RouteAtlas.Yaml

/-- The ways to write a scalar. -/
inductive Style where
  | plain
  | single
  | double
  /-- As a block that keeps its line breaks. -/
  | literal
deriving Repr, DecidableEq

/-- Whether a character may stand in a scalar without an escape. -/
def isPrintable (c : Char) : Bool :=
  c == '\n' || (0x20 ≤ c.toNat && c.toNat ≤ 0x7E) ||
    (0xA0 ≤ c.toNat &&
      !(c.toNat == 0xFEFF || c.toNat == 0xFFFE || c.toNat == 0xFFFF))

/-- Whether the text has a character of one kind right before one of
another. -/
def hasPair (one other : Char → Bool) : List Char → Bool
  | c :: d :: rest => (one c && other d) || hasPair one other (d :: rest)
  | _ => false

/-- Whether a text can only be written with escapes. -/
def needsEscapes (chars : List Char) : Bool :=
  chars.any (fun c => !isPrintable c) || hasPair (· == ' ') isBreak chars

/-- A space or a line break. -/
def isMargin (c : Char) : Bool :=
  c == ' ' || isBreak c

/-- Whether a text starts or ends in a space or a line break. -/
def hasMargin (chars : List Char) : Bool :=
  (chars.head?.map isMargin).getD false ||
    (chars.getLast?.map isMargin).getD false

/-- Characters that cannot be the first one of a plain scalar, whatever
follows. -/
def isReserved (c : Char) : Bool :=
  ['#', ',', '[', ']', '\x7b', '\x7d', '&', '*', '!', '|', '>', '\'', '"',
    '%', '@', '\x60'].contains c

/-- Whether the first characters of a text mean something else than a plain
scalar. -/
def startsMarked : List Char → Bool
  | '-' :: '-' :: '-' :: _ => true
  | '.' :: '.' :: '.' :: _ => true
  | c :: rest =>
      isReserved c || (['?', ':', '-'].contains c && endsWord rest)
  | [] => false

/-- Whether a colon ends a word, or a number sign starts one. -/
def hasMarks : List Char → Bool
  | ':' :: rest => endsWord rest || hasMarks rest
  | c :: '#' :: rest => isMargin c || hasMarks ('#' :: rest)
  | _ :: rest => hasMarks rest
  | [] => false

/-- Whether a text can be written without quotes and is then read as the same
characters. -/
def isBare (chars : List Char) : Bool :=
  !(hasMargin chars || chars.any isBreak || startsMarked chars ||
    hasMarks chars)

/-- Whether a text without quotes would be read as something else than a text,
or as a number by readers that take padded numbers for such. -/
def isMistakable (text : String) : Bool :=
  let unsigned :=
    match text.toList with
    | '+' :: rest | '-' :: rest => rest
    | chars => chars
  kindOf text != .text || isPadded unsigned

/-- The style of a text: the first of plain, single quotes and double quotes
that keeps it as it is, but a literal block where it has a line feed. -/
def Style.ofText (text : String) : Style :=
  let chars := text.toList
  if needsEscapes chars then .double
  else if chars.contains '\n' then
    if chars.getLast? == some ' ' then .double else .literal
  else if isMistakable text then .single
  else if isBare chars then .plain
  else if hasPair isBreak (· == ' ') chars then .double
  else .single

/-- The scalar that stands for a text. -/
def Scalar.ofText (text : String) : Scalar :=
  ⟨Style.ofText text == .plain, text⟩

/-- The style of a scalar. -/
def Scalar.style (scalar : Scalar) : Style :=
  if scalar.plain then .plain
  else
    match Style.ofText scalar.text with
    | .plain => .single
    | style => style

end RouteAtlas.Yaml
