/-
Module: RouteAtlas.Template.Lexer
Purpose: Cutting a template source into text and tags, one character at a
  time.
Main exports: Template.Lexer, Template.Lexer.step, Template.segments
-/
import RouteAtlas.Template.Token
import RouteAtlas.Text.Blank

namespace RouteAtlas.Template

/-!
Two rules keep statements from leaving empty lines behind.  A line break right
after a statement or a comment is dropped, and so are the blanks before one
that is the first thing on its line.  A tag that writes a value leaves the text
around it alone.
-/

/-- What is still to be dropped of the text after a tag. -/
inductive Swallow where
  | nothing
  /-- One line break. -/
  | lineBreak
  /-- The rest of a line break that began with a carriage return. -/
  | lineFeed
  | blanks
deriving Repr, DecidableEq

/-- Text between tags. -/
structure Plain where
  /-- What was read, last character first. -/
  read : List Char
  /-- Whether everything read so far of this line of the source is blank. -/
  lineBlank : Bool
  swallow : Swallow
deriving Repr, DecidableEq

/-- A tag whose end has not been met. -/
structure OpenTag where
  kind : TagKind
  /-- How many brackets are open. -/
  depth : Nat
  /-- The tokens read, last one first. -/
  tokens : List Token
deriving Repr, DecidableEq

/-- How much of the end of a raw section has been met. -/
inductive RawEnd where
  | start
  | blanks
  | word (rest : List Char)
  | after
  | marked
  | percent
deriving Repr, DecidableEq

/-- Where the lexer stands. -/
inductive Mode where
  | text (plain : Plain)
  /-- After an opening brace in text. -/
  | brace (plain : Plain)
  /-- After the delimiter that opens a tag. -/
  | opened (kind : TagKind) (plain : Plain)
  /-- After the delimiter that opens a comment. -/
  | commentOpened (plain : Plain)
  /-- In a comment, with the last character of it, if any. -/
  | comment (last : Option Char)
  /-- In a comment, after a hash sign and with the character before it. -/
  | hash (last : Option Char)
  | tag (tag : OpenTag)
  | name (tag : OpenTag) (read : List Char)
  | number (tag : OpenTag) (value : Nat)
  | quoted (tag : OpenTag) (quote : Char) (read : List Char)
  | escape (tag : OpenTag) (quote : Char) (read : List Char)
  | codePoint (tag : OpenTag) (quote : Char) (read : List Char)
      (missing value : Nat)
  | equals (tag : OpenTag)
  | bang (tag : OpenTag)
  /-- After a control mark in a tag. -/
  | marked (tag : OpenTag) (control : Control)
  /-- After the first character of the delimiter that closes a tag. -/
  | closing (tag : OpenTag) (control : Control)
  | raw (plain : Plain)
  | rawBrace (plain : Plain)
  /-- In what may be the end of a raw section; `held` has what was read of
  it. -/
  | rawEnd (plain : Plain) (held : List Char) (stage : RawEnd)
      (before after : Control)
deriving Repr, DecidableEq

/-- A lexer with the segments it has found, last one first. -/
structure Lexer where
  mode : Mode
  segments : List Segment
deriving Repr, DecidableEq

namespace Plain

/-- The text at the start of a source. -/
def first : Plain := ⟨[], true, .nothing⟩

/-- The text after a tag. -/
def afterTag (swallow : Swallow) : Plain := ⟨[], false, swallow⟩

/-- Read on, now that nothing is to be dropped any more. -/
def push (c : Char) (plain : Plain) : Plain where
  read := c :: plain.read
  lineBlank := c == '\n' || (plain.lineBlank && Text.isBlank c)
  swallow := .nothing

/-- Drop a character. -/
def drop (c : Char) (swallow : Swallow) (plain : Plain) : Plain where
  read := plain.read
  lineBlank := c == '\n' || (plain.lineBlank && Text.isBlank c)
  swallow := swallow

/-- Read or drop a character. -/
def add (c : Char) (plain : Plain) : Plain :=
  match plain.swallow with
  | .nothing => plain.push c
  | .lineBreak =>
      if c = '\n' then plain.drop c .nothing
      else if c = '\r' then plain.drop c .lineFeed
      else plain.push c
  | .lineFeed => if c = '\n' then plain.drop c .nothing else plain.push c
  | .blanks => if Text.isBlank c then plain.drop c .blanks else plain.push c

/-- Drop the blanks at the end of the last line. -/
def dropIndent (read : List Char) : List Char :=
  read.dropWhile fun c => c != '\n' && Text.isBlank c

/-- The text before a tag with the given control. -/
def before (control : Control) (wholeLine : Bool) (plain : Plain) :
    List Char :=
  match control with
  | .remove => plain.read.dropWhile Text.isBlank
  | .keep => plain.read
  | .standard => if wholeLine then dropIndent plain.read else plain.read

end Plain

/-- What a tag with the given control drops after it. -/
def TagKind.swallow (kind : TagKind) : Control → Swallow
  | .remove => .blanks
  | .keep => .nothing
  | .standard =>
      match kind with
      | .value => .nothing
      | .block => .lineBreak

/-- The characters of the delimiter that closes a tag: this one and a brace. -/
def TagKind.closer : TagKind → Char
  | .value => '\x7d'
  | .block => '%'

/-- The first character of a name. -/
def isNameStart (c : Char) : Bool :=
  c.isAlpha || c == '_'

/-- A later character of a name. -/
def isNameChar (c : Char) : Bool :=
  c.isAlphanum || c == '_'

/-- The control that the last character of a comment asks for. -/
def Control.ofLast (last : Option Char) : Control :=
  (last.bind Control.ofChar?).getD .standard

/-- The character that a backslash makes of the next one in a string. -/
def unescape? (c : Char) : Option Char :=
  if c = '"' || c = '\'' || c = '\\' || c = '/' then some c
  else if c = 'b' then some '\x08'
  else if c = 'f' then some '\x0c'
  else if c = 'n' then some '\n'
  else if c = 'r' then some '\r'
  else if c = 't' then some '\t'
  else none

/-- The value of a hexadecimal digit. -/
def hexDigit? (c : Char) : Option Nat :=
  if '0' ≤ c ∧ c ≤ '9' then some (c.toNat - '0'.toNat)
  else if 'a' ≤ c ∧ c ≤ 'f' then some (c.toNat - 'a'.toNat + 10)
  else if 'A' ≤ c ∧ c ≤ 'F' then some (c.toNat - 'A'.toNat + 10)
  else none

namespace OpenTag

/-- Add a token. -/
def push (token : Token) (tag : OpenTag) : OpenTag :=
  { tag with tokens := token :: tag.tokens }

end OpenTag

namespace Lexer

/-- The lexer before a source. -/
def start : Lexer := ⟨.text .first, []⟩

/-- Go on in another mode. -/
def goto (mode : Mode) (lexer : Lexer) : Lexer :=
  { lexer with mode }

/-- Add the text that was read, unless there is none. -/
def emit (read : List Char) (lexer : Lexer) : Lexer :=
  match read with
  | [] => lexer
  | read =>
      { lexer with
        segments := .text (String.ofList read.reverse) :: lexer.segments }

/-- End a tag.  The statement `raw` opens a section in which nothing is a
tag. -/
def endTag (tag : OpenTag) (control : Control) (lexer : Lexer) : Lexer :=
  let after := Plain.afterTag (tag.kind.swallow control)
  match tag.kind, tag.tokens with
  | .block, [.name "raw"] => lexer.goto (.raw after)
  | kind, tokens =>
      ⟨.text after, .tag kind tokens.reverse :: lexer.segments⟩

/-- A character of text. -/
def textStep (plain : Plain) (c : Char) (lexer : Lexer) : Lexer :=
  if c = '\x7b' then lexer.goto (.brace plain)
  else lexer.goto (.text (plain.add c))

/-- A character between the tokens of a tag. -/
def tagStep (tag : OpenTag) (c : Char) (lexer : Lexer) : Option Lexer :=
  if Text.isBlank c then some (lexer.goto (.tag tag))
  else if tag.depth = 0 ∧ c = tag.kind.closer then
    some (lexer.goto (.closing tag .standard))
  else if c = '-' then some (lexer.goto (.marked tag .remove))
  else if c = '+' then some (lexer.goto (.marked tag .keep))
  else if isNameStart c then some (lexer.goto (.name tag [c]))
  else if c.isDigit then
    some (lexer.goto (.number tag (c.toNat - '0'.toNat)))
  else if c = '"' || c = '\'' then some (lexer.goto (.quoted tag c []))
  else if c = '=' then some (lexer.goto (.equals tag))
  else if c = '!' then some (lexer.goto (.bang tag))
  else if c = '(' || c = '[' then
    some (lexer.goto (.tag { tag.push (.mark c) with depth := tag.depth + 1 }))
  else if c = ')' || c = ']' then
    some (lexer.goto (.tag { tag.push (.mark c) with depth := tag.depth - 1 }))
  else if c = '.' || c = ',' || c = '~' || c = '|' then
    some (lexer.goto (.tag (tag.push (.mark c))))
  else none

/-- A character of a comment. -/
def commentStep (last : Option Char) (c : Char) (lexer : Lexer) : Lexer :=
  if c = '#' then lexer.goto (.hash last)
  else lexer.goto (.comment (some c))

/-- A character of a raw section. -/
def rawStep (plain : Plain) (c : Char) (lexer : Lexer) : Lexer :=
  if c = '\x7b' then lexer.goto (.rawBrace plain)
  else lexer.goto (.raw (plain.add c))

/-- Whether nothing but blanks was read since the last line break. -/
def isIndent (read : List Char) : Bool :=
  match Plain.dropIndent read with
  | [] => true
  | c :: _ => c == '\n'

/-- End a raw section. -/
def endRaw (plain : Plain) (before after : Control) (lexer : Lexer) : Lexer :=
  (lexer.emit (plain.before before (isIndent plain.read))).goto <|
    .text (.afterTag (TagKind.block.swallow after))

/-- A character of what may be the end of a raw section. -/
def rawEndStep (plain : Plain) (held : List Char) (stage : RawEnd)
    (before after : Control) (c : Char) (lexer : Lexer) : Lexer :=
  let stay (stage : RawEnd) (before after : Control) : Lexer :=
    lexer.goto (.rawEnd plain (c :: held) stage before after)
  let giveUp : Lexer :=
    lexer.rawStep
      { plain with read := held ++ plain.read, swallow := .nothing } c
  let word : Lexer := if c = 'e' then stay (.word "ndraw".toList) before after
    else giveUp
  match stage with
  | .start =>
      match Control.ofChar? c with
      | some control => stay .blanks control after
      | none => if Text.isBlank c then stay .blanks before after else word
  | .blanks => if Text.isBlank c then stay .blanks before after else word
  | .word [] => giveUp
  | .word (expected :: rest) =>
      if c = expected then
        stay (if rest.isEmpty then .after else .word rest) before after
      else giveUp
  | .after =>
      match Control.ofChar? c with
      | some control => stay .marked before control
      | none =>
          if Text.isBlank c then stay .after before after
          else if c = '%' then stay .percent before after
          else giveUp
  | .marked => if c = '%' then stay .percent before after else giveUp
  | .percent =>
      if c = '\x7d' then lexer.endRaw plain before after else giveUp

/-- Read one character.  There is no result for a character that no template
may have at this place. -/
def step (lexer : Lexer) (c : Char) : Option Lexer :=
  match lexer.mode with
  | .text plain => some (lexer.textStep plain c)
  | .brace plain =>
      if c = '\x7b' then some (lexer.goto (.opened .value plain))
      else if c = '%' then some (lexer.goto (.opened .block plain))
      else if c = '#' then some (lexer.goto (.commentOpened plain))
      else some (lexer.textStep (plain.push '\x7b') c)
  | .opened kind plain =>
      let tag : OpenTag := ⟨kind, 0, []⟩
      match Control.ofChar? c with
      | some control =>
          some ((lexer.emit (plain.before control false)).goto (.tag tag))
      | none =>
          (lexer.emit
            (plain.before .standard (kind == .block && plain.lineBlank))).tagStep
            tag c
  | .commentOpened plain =>
      match Control.ofChar? c with
      | some control =>
          some ((lexer.emit (plain.before control false)).goto (.comment none))
      | none =>
          some <| (lexer.emit
            (plain.before .standard plain.lineBlank)).commentStep none c
  | .comment last => some (lexer.commentStep last c)
  | .hash last =>
      if c = '\x7d' then
        some <| lexer.goto <|
          .text (.afterTag (TagKind.block.swallow (.ofLast last)))
      else
        some (lexer.commentStep (some '#') c)
  | .tag tag => lexer.tagStep tag c
  | .name tag read =>
      if isNameChar c then some (lexer.goto (.name tag (c :: read)))
      else lexer.tagStep (tag.push (.name (String.ofList read.reverse))) c
  | .number tag value =>
      if c.isDigit then
        some (lexer.goto (.number tag (10 * value + (c.toNat - '0'.toNat))))
      else lexer.tagStep (tag.push (.number value)) c
  | .quoted tag quote read =>
      if c = quote then
        some (lexer.goto (.tag (tag.push (.string (String.ofList read.reverse)))))
      else if c = '\\' then some (lexer.goto (.escape tag quote read))
      else some (lexer.goto (.quoted tag quote (c :: read)))
  | .escape tag quote read =>
      if c = 'u' then some (lexer.goto (.codePoint tag quote read 4 0))
      else
        (unescape? c).map fun c => lexer.goto (.quoted tag quote (c :: read))
  | .codePoint tag quote read missing value =>
      match hexDigit? c with
      | none => none
      | some digit =>
          let value := 16 * value + digit
          if missing ≠ 1 then
            some (lexer.goto (.codePoint tag quote read (missing - 1) value))
          else if value.isValidChar then
            some (lexer.goto (.quoted tag quote (Char.ofNat value :: read)))
          else
            none
  | .equals tag =>
      if c = '=' then some (lexer.goto (.tag (tag.push .equal)))
      else lexer.tagStep (tag.push (.mark '=')) c
  | .bang tag =>
      if c = '=' then some (lexer.goto (.tag (tag.push .differ))) else none
  | .marked tag control =>
      if tag.depth = 0 ∧ c = tag.kind.closer then
        some (lexer.goto (.closing tag control))
      else none
  | .closing tag control =>
      if c = '\x7d' then some (lexer.endTag tag control) else none
  | .raw plain => some (lexer.rawStep plain c)
  | .rawBrace plain =>
      if c = '%' then
        some <| lexer.goto <|
          .rawEnd plain ['%', '\x7b'] .start .standard .standard
      else some (lexer.rawStep (plain.push '\x7b') c)
  | .rawEnd plain held stage before after =>
      some (lexer.rawEndStep plain held stage before after c)

/-- The segments at the end of a source; no tag may be open there. -/
def finish? (lexer : Lexer) : Option (List Segment) :=
  match lexer.mode with
  | .text plain => some (lexer.emit plain.read).segments.reverse
  | .brace plain =>
      some (lexer.emit (plain.push '\x7b').read).segments.reverse
  | _ => none

end Lexer

/-- The segments of a source. -/
def segments? (source : String) : Option (List Segment) :=
  (source.toList.foldlM Lexer.step Lexer.start).bind Lexer.finish?

end RouteAtlas.Template
