/-
Module: RouteAtlas.Yaml.Quoted
Purpose: Reading scalars in single and in double quotes.
Main exports: Yaml.QuoteStyle, Yaml.readQuoted
-/
import RouteAtlas.Yaml.Cursor

namespace RouteAtlas.Yaml

/-- The two kinds of quotes. -/
inductive QuoteStyle where
  | single
  | double
deriving Repr, DecidableEq

/-- The character of a quote. -/
def QuoteStyle.char : QuoteStyle → Char
  | .single => '\''
  | .double => '"'

/-- Where the reader of a quoted scalar stands. -/
inductive QuoteMode where
  | read
  /-- After a backslash. -/
  | escape
  /-- In a code point with some hexadecimal digits missing. -/
  | code (missing value : Nat)
deriving Repr, DecidableEq

/-- What a backslash makes of the next character. -/
def escaped? (c : Char) : Option Char :=
  [('0', '\x00'), ('a', '\x07'), ('b', '\x08'), ('t', '\t'), ('\t', '\t'),
    ('n', '\n'), ('v', '\x0b'), ('f', '\x0c'), ('r', '\r'), ('e', '\x1b'),
    (' ', ' '), ('"', '"'), ('/', '/'), ('\\', '\\'), ('N', '\u0085'),
    ('_', '\u00a0'), ('L', '\u2028'), ('P', '\u2029')].lookup c

/-- The number of hexadecimal digits that follow a letter after a
backslash. -/
def codeLength? (c : Char) : Option Nat :=
  [('x', 2), ('u', 4), ('U', 8)].lookup c

/-- The value of a hexadecimal digit. -/
def hexValue? (c : Char) : Option Nat :=
  if '0' ≤ c ∧ c ≤ '9' then some (c.toNat - '0'.toNat)
  else if 'a' ≤ c ∧ c ≤ 'f' then some (c.toNat - 'a'.toNat + 10)
  else if 'A' ≤ c ∧ c ≤ 'F' then some (c.toNat - 'A'.toNat + 10)
  else none

/-- The rest of a quoted scalar.  The first result has its characters, last
one first. -/
def quotedFrom (style : QuoteStyle) (mode : QuoteMode) (read : List Char)
    (gap : Gap) (column : Nat) :
    List Char → Except Fault (List Char × Cursor)
  | [] => .error .unclosedQuote
  | c :: rest =>
      match mode with
      | .escape =>
          if isBreak c then
            quotedFrom style .read read (.lines .none []) 0 rest
          else
            match codeLength? c with
            | some length =>
                quotedFrom style (.code length 0) read .none (column + 1) rest
            | none =>
                match escaped? c with
                | some plain =>
                    quotedFrom style .read (plain :: read) .none (column + 1)
                      rest
                | none => .error .wrongEscape
      | .code missing value =>
          match hexValue? c with
          | none => .error .wrongEscape
          | some digit =>
              let value := 16 * value + digit
              if missing ≠ 1 then
                quotedFrom style (.code (missing - 1) value) read .none
                  (column + 1) rest
              else if value.isValidChar then
                quotedFrom style .read (Char.ofNat value :: read) .none
                  (column + 1) rest
              else
                .error .wrongEscape
      | .read =>
          if gap.isLines && column == 0 && isMarker (c :: rest) then
            .error .misplaced
          else if isBreak c then
            quotedFrom style .read read (gap.addBreak c) 0 rest
          else if isBlank c then
            match gap with
            | .none => quotedFrom style .read read (.blanks [c]) (column + 1) rest
            | .blanks blanks =>
                quotedFrom style .read read (.blanks (c :: blanks)) (column + 1)
                  rest
            | .lines first others =>
                quotedFrom style .read read (.lines first others) (column + 1)
                  rest
          else
            let read := gap.fold ++ read
            let done : Except Fault (List Char × Cursor) :=
              .ok (read, ⟨rest, column + 1, false⟩)
            match style with
            | .single =>
                if c = '\'' then
                  match rest with
                  | '\'' :: rest =>
                      quotedFrom style .read ('\'' :: read) .none (column + 2)
                        rest
                  | _ => done
                else
                  quotedFrom style .read (c :: read) .none (column + 1) rest
            | .double =>
                if c = '"' then done
                else if c = '\\' then
                  quotedFrom style .escape read .none (column + 1) rest
                else
                  quotedFrom style .read (c :: read) .none (column + 1) rest

/-- A quoted scalar, from its opening quote on, and the place after it. -/
def readQuoted (style : QuoteStyle) (cursor : Cursor) :
    Except Fault (String × Cursor) := do
  let opened := cursor.advance false
  let (read, after) ←
    quotedFrom style .read [] .none opened.column opened.rest
  return (String.ofList read.reverse, after)

end RouteAtlas.Yaml
