/-
Module: RouteAtlas.Yaml.Cursor
Purpose: Characters of YAML texts, and places in them.
Main exports: Yaml.Fault, Yaml.normalize, Yaml.Cursor, Yaml.Cursor.skip
-/

namespace RouteAtlas.Yaml

/-- Why a text is refused. -/
inductive Fault where
  | forbiddenCharacter
  | tabAsIndentation
  | unclosedQuote
  | wrongEscape
  | wrongHeader
  /-- Something stands where it may not. -/
  | misplaced
  | secondDocument
  /-- The text is well formed but says something else than was expected. -/
  | unexpected (expected : String)
  | repeatedKey (key : String)
  | unknownName (name : String)
deriving Repr, DecidableEq

/-- The wording of a fault. -/
def Fault.message : Fault → String
  | .forbiddenCharacter => "control characters are not allowed"
  | .tabAsIndentation => "found a tab where indentation is expected"
  | .unclosedQuote => "found the end of the text in a quoted scalar"
  | .wrongEscape => "found an unknown escape in a quoted scalar"
  | .wrongHeader => "found a wrong header of a block scalar"
  | .misplaced => "found something that may not stand here"
  | .secondDocument => "more than one document"
  | .unexpected expected => "invalid type, expected " ++ expected
  | .repeatedKey key => "duplicate field " ++ key
  | .unknownName name => "unknown variant " ++ name

/-- Whether a text may hold a character: line breaks, tabs, and everything
that is neither a control character nor a surrogate. -/
def isAllowed (c : Char) : Bool :=
  c == '\t' || c == '\n' || c == '\r' ||
    (0x20 ≤ c.toNat && c.toNat ≤ 0x7E) || c.toNat == 0x85 ||
    (0xA0 ≤ c.toNat && c.toNat ≤ 0xFFFD) || 0x10000 ≤ c.toNat

/-- A line or paragraph separator, which breaks a line but is kept as it
is. -/
def isSeparator (c : Char) : Bool :=
  c.toNat == 0x2028 || c.toNat == 0x2029

/-- A character that ends a line of a normalized text. -/
def isBreak (c : Char) : Bool :=
  c == '\n' || isSeparator c

/-- A space or a tab. -/
def isBlank (c : Char) : Bool :=
  c == ' ' || c == '\t'

/-- Whether a word ends before the given text. -/
def endsWord : List Char → Bool
  | [] => true
  | c :: _ => isBlank c || isBreak c

/-- A text in which every line ends in a line feed, but for separators. -/
def normalize : List Char → List Char
  | [] => []
  | '\r' :: '\n' :: rest => '\n' :: normalize rest
  | c :: rest =>
      (if c = '\r' ∨ c.toNat = 0x85 then '\n' else c) :: normalize rest

/-- A place in a text: what follows, the column, and whether a key may start
here.  A key may start at the beginning of a line and after the mark of a
sequence entry, with nothing but blanks before it. -/
structure Cursor where
  rest : List Char
  column : Nat
  fresh : Bool
deriving Repr, DecidableEq

/-- Whether a text starts with the mark of a document's start or end. -/
def isMarker : List Char → Bool
  | '-' :: '-' :: '-' :: rest => endsWord rest
  | '.' :: '.' :: '.' :: rest => endsWord rest
  | _ => false

/-- Pass over blanks, comments and line breaks.  Tabs count as blanks where no
key may start.  The second result tells whether a line break was passed. -/
def skipFrom (flow : Bool) (tabs comment crossed fresh : Bool) (column : Nat) :
    List Char → Cursor × Bool
  | [] => (⟨[], column, fresh⟩, crossed)
  | c :: rest =>
      if isBreak c then
        skipFrom flow flow false true (fresh || !flow) 0 rest
      else if comment || c == ' ' || (tabs && c == '\t') then
        skipFrom flow tabs comment crossed fresh (column + 1) rest
      else if c = '#' then
        skipFrom flow tabs true crossed fresh (column + 1) rest
      else
        (⟨c :: rest, column, fresh⟩, crossed)

namespace Cursor

/-- The start of a text. -/
def start (text : List Char) : Cursor := ⟨text, 0, true⟩

/-- Go to the next token. -/
def skip (flow : Bool) (cursor : Cursor) : Cursor × Bool :=
  skipFrom flow (flow || !cursor.fresh) false false cursor.fresh cursor.column
    cursor.rest

/-- Whether a marker stands here. -/
def atMarker (cursor : Cursor) : Bool :=
  cursor.column == 0 && isMarker cursor.rest

/-- Whether the document ends here. -/
def atEnd (cursor : Cursor) : Bool :=
  cursor.rest.isEmpty || cursor.atMarker

/-- Whether the mark of a sequence entry stands here. -/
def atEntry (cursor : Cursor) : Bool :=
  match cursor.rest with
  | '-' :: rest => endsWord rest
  | _ => false

/-- Whether the mark between a key and its value stands here. -/
def atColon (flow : Bool) (cursor : Cursor) : Bool :=
  match cursor.rest with
  | ':' :: rest => flow || endsWord rest
  | _ => false

/-- Pass over one character that is not a line break. -/
def advance (fresh : Bool) (cursor : Cursor) : Cursor :=
  ⟨cursor.rest.tail, cursor.column + 1, fresh⟩

/-- Whether what stands between two places can be a key: it is on one line and
not too long. -/
def spansKey (start finish : Cursor) : Bool :=
  let length := start.rest.length - finish.rest.length
  length ≤ 1024 && (start.rest.take length).all fun c => !isBreak c

end Cursor

/-- What stands between two words of a scalar. -/
inductive Gap where
  | none
  /-- Blanks, last one first. -/
  | blanks (read : List Char)
  /-- Line breaks: the first one, unless it was escaped, and the others, last
  one first. -/
  | lines (first : Option Char) (others : List Char)
deriving Repr, DecidableEq

namespace Gap

/-- Whether the gap has a line break. -/
def isLines : Gap → Bool
  | .lines .. => true
  | _ => false

/-- A gap with a line break added. -/
def addBreak (c : Char) : Gap → Gap
  | .lines first others => .lines first (c :: others)
  | _ => .lines (some c) []

/-- What a gap becomes inside a folded scalar, last character first.  A single
line feed becomes a space, and of several one is dropped. -/
def fold : Gap → List Char
  | .none => []
  | .blanks read => read
  | .lines (some '\n') [] => [' ']
  | .lines (some '\n') others => others
  | .lines (some c) others => others ++ [c]
  | .lines .none others => others

end Gap

end RouteAtlas.Yaml
