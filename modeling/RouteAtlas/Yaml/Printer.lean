/-
Module: RouteAtlas.Yaml.Printer
Purpose: The written form of a document: one entry or item a line, indented by
  two spaces for each level, with sequences right below their keys.
Main exports: Yaml.print
-/
import RouteAtlas.Yaml.Style

namespace RouteAtlas.Yaml

/-- Spaces up to a column. -/
def spaces (column : Nat) : List Char :=
  List.replicate column ' '

/-- Characters with spaces up to a column at the start of every line that is
not empty, apart from the first one unless it is fresh. -/
def indentLines (column : Nat) (fresh : Bool) : List Char → List Char
  | [] => []
  | c :: rest =>
      if isBreak c then c :: indentLines column true rest
      else
        (if fresh then spaces column else []) ++
          c :: indentLines column false rest

/-- Whether a text ends in a line break. -/
def endsInBreak (chars : List Char) : Bool :=
  (chars.getLast?.map isBreak).getD false

/-- A text in single quotes, where a quote is written twice. -/
def singleText (column : Nat) (chars : List Char) : List Char :=
  let doubled := chars.flatMap fun c => if c = '\'' then ['\'', '\''] else [c]
  '\'' :: indentLines column false doubled ++
    (if endsInBreak chars then spaces column else []) ++ ['\'']

/-- The last hexadecimal digits of a number. -/
def hexDigits : Nat → Nat → List Char
  | 0, _ => []
  | count + 1, value =>
      hexDigits count (value / 16) ++ [(Nat.digitChar (value % 16)).toUpper]

/-- The letter that stands behind a backslash for a character. -/
def escapeLetter? (c : Char) : Option Char :=
  [('\x00', '0'), ('\x07', 'a'), ('\x08', 'b'), ('\t', 't'), ('\n', 'n'),
    ('\x0b', 'v'), ('\x0c', 'f'), ('\r', 'r'), ('\x1b', 'e'), ('"', '"'),
    ('\\', '\\'), ('\u0085', 'N'), ('\u00a0', '_'), ('\u2028', 'L'),
    ('\u2029', 'P')].lookup c

/-- A character in double quotes. -/
def doubleChar (c : Char) : List Char :=
  if isPrintable c && !isBreak c && c != '"' && c != '\\' then [c]
  else
    match escapeLetter? c with
    | some letter => ['\\', letter]
    | none =>
        if c.toNat ≤ 0xFF then '\\' :: 'x' :: hexDigits 2 c.toNat
        else if c.toNat ≤ 0xFFFF then '\\' :: 'u' :: hexDigits 4 c.toNat
        else '\\' :: 'U' :: hexDigits 8 c.toNat

/-- A text in double quotes. -/
def doubleText (chars : List Char) : List Char :=
  '"' :: chars.flatMap doubleChar ++ ['"']

/-- What a literal block says about the line breaks at its end: a minus if
there is none, a plus if there are several or nothing else. -/
def chompMark (chars : List Char) : List Char :=
  match chars.reverse with
  | [] => ['-']
  | [c] => if isBreak c then ['+'] else ['-']
  | c :: d :: _ =>
      if !isBreak c then ['-'] else if isBreak d then ['+'] else []

/-- A literal block, with its lines indented up to a column.  The indentation
is given where the first line does not show it. -/
def literalText (column : Nat) (chars : List Char) : List Char :=
  let digit := if (chars.head?.map isMargin).getD false then ['2'] else []
  '|' :: digit ++ chompMark chars ++ '\n' :: indentLines column true chars

/-- A scalar and the end of its line; further lines are indented up to a
column. -/
def scalarLine (column : Nat) (scalar : Scalar) : List Char :=
  let chars := scalar.text.toList
  match scalar.style with
  | .plain => chars ++ ['\n']
  | .single => singleText column chars ++ ['\n']
  | .double => doubleText chars ++ ['\n']
  | .literal =>
      literalText column chars ++ (if endsInBreak chars then [] else ['\n'])

/-- A key, on one line. -/
def keyText (key : Scalar) : List Char :=
  let chars := key.text.toList
  match key.style with
  | .plain => chars
  | .single => if chars.any isBreak then doubleText chars else singleText 0 chars
  | .double | .literal => doubleText chars

mutual

/-- What follows the colon behind a key in a column. -/
def valueText (column : Nat) : Node → List Char
  | .scalar scalar => ' ' :: scalarLine (column + 2) scalar
  | .sequence [] => [' ', '[', ']', '\n']
  | .sequence (item :: rest) =>
      '\n' :: spaces column ++ '-' :: itemText column item ++
        itemsText column rest
  | .mapping [] => [' ', '\x7b', '\x7d', '\n']
  | .mapping ((key, value) :: rest) =>
      '\n' :: spaces (column + 2) ++ keyText key ++
        ':' :: valueText (column + 2) value ++ entriesText (column + 2) rest

/-- What follows a dash in a column. -/
def itemText (column : Nat) : Node → List Char
  | .scalar scalar => ' ' :: scalarLine (column + 2) scalar
  | .sequence [] => [' ', '[', ']', '\n']
  | .sequence (item :: rest) =>
      ' ' :: '-' :: itemText (column + 2) item ++ itemsText (column + 2) rest
  | .mapping [] => [' ', '\x7b', '\x7d', '\n']
  | .mapping ((key, value) :: rest) =>
      ' ' :: keyText key ++
        ':' :: valueText (column + 2) value ++ entriesText (column + 2) rest

/-- Items on lines of their own, with their dashes in a column. -/
def itemsText (column : Nat) : List Node → List Char
  | [] => []
  | item :: rest =>
      spaces column ++ '-' :: itemText column item ++ itemsText column rest

/-- Entries on lines of their own, with their keys in a column. -/
def entriesText (column : Nat) : List (Scalar × Node) → List Char
  | [] => []
  | (key, value) :: rest =>
      spaces column ++ keyText key ++ ':' :: valueText column value ++
        entriesText column rest

end

/-- The document that holds a node. -/
def print : Node → String
  | .scalar scalar => String.ofList (scalarLine 2 scalar)
  | .sequence [] => "[]\n"
  | .sequence items => String.ofList (itemsText 0 items)
  | .mapping [] => "\x7b\x7d\n"
  | .mapping entries => String.ofList (entriesText 0 entries)

end RouteAtlas.Yaml
