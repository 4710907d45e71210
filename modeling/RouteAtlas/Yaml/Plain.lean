/-
Module: RouteAtlas.Yaml.Plain
Purpose: Reading scalars without quotes.
Main exports: Yaml.startsPlain, Yaml.readPlain
-/
import RouteAtlas.Yaml.Cursor

namespace RouteAtlas.Yaml

/-- Characters that cannot be the first one of a plain scalar. -/
def isIndicator (c : Char) : Bool :=
  ['-', '?', ':', ',', '[', ']', '\x7b', '\x7d', '#', '&', '*', '!', '|', '>',
    '\'', '"', '%', '@', '\x60'].contains c

/-- Characters that end a plain scalar inside brackets. -/
def isFlowIndicator (c : Char) : Bool :=
  [',', '[', ']', '\x7b', '\x7d'].contains c

/-- Whether a plain scalar starts here.  A dash, and outside brackets a colon
or a question mark, may be the first character of a longer word. -/
def startsPlain (flow : Bool) : List Char → Bool
  | [] => false
  | c :: rest =>
      if c = '-' then !endsWord rest
      else if c = ':' ∨ c = '?' then !flow && !endsWord rest
      else !(isBlank c || isBreak c || isIndicator c)

/-- Whether a word of a plain scalar ends before the given text. -/
def endsPlainWord (flow : Bool) : List Char → Bool
  | [] => true
  | c :: rest =>
      (c == ':' && endsWord rest) || (flow && isFlowIndicator c)

/-- Whether a colon stands right before a bracket, which only a key may do. -/
def isLooseColon (flow : Bool) : List Char → Bool
  | ':' :: c :: _ => flow && (isFlowIndicator c || c == '?')
  | _ => false

/-- The rest of a plain scalar, which may go on over several lines.  The first
result has its characters, last one first.  Outside brackets further lines
must reach the given column. -/
def plainFrom (flow : Bool) (indent : Nat) (read : List Char) (gap : Gap)
    (column : Nat) : List Char → Except Fault (List Char × Cursor)
  | [] => .ok (read, ⟨[], column, gap.isLines⟩)
  | c :: rest =>
      let stop : Except Fault (List Char × Cursor) :=
        .ok (read, ⟨c :: rest, column, gap.isLines⟩)
      if gap.isLines && column == 0 && isMarker (c :: rest) then stop
      else if isBreak c then
        plainFrom flow indent read (gap.addBreak c) 0 rest
      else if isBlank c then
        match gap with
        | .none => plainFrom flow indent read (.blanks [c]) (column + 1) rest
        | .blanks blanks =>
            plainFrom flow indent read (.blanks (c :: blanks)) (column + 1) rest
        | .lines first others =>
            if c = '\t' ∧ column < indent then .error .tabAsIndentation
            else
              plainFrom flow indent read (.lines first others) (column + 1) rest
      else if gap.isLines && !flow && column < indent then stop
      else if c = '#' ∧ gap ≠ .none then stop
      else if isLooseColon flow (c :: rest) then .error .misplaced
      else if endsPlainWord flow (c :: rest) then stop
      else
        plainFrom flow indent (c :: (gap.fold ++ read)) .none (column + 1) rest

/-- A plain scalar and the place after it. -/
def readPlain (flow : Bool) (indent : Nat) (cursor : Cursor) :
    Except Fault (String × Cursor) := do
  let (read, after) ←
    plainFrom flow indent [] .none cursor.column cursor.rest
  return (String.ofList read.reverse, after)

end RouteAtlas.Yaml
