/-
Module: RouteAtlas.Template.Token
Purpose: The parts of a template source: text, tags, and the tokens in tags.
Main exports: Template.Token, Template.Segment
-/

namespace RouteAtlas.Template

/-- A token inside a tag. -/
inductive Token where
  | name (text : String)
  | string (text : String)
  | number (value : Nat)
  | mark (c : Char)
  | equal
  | differ
deriving Repr, DecidableEq

/-- What a tag is for: a value to be written, or a statement. -/
inductive TagKind where
  | value
  | block
deriving Repr, DecidableEq

/-- A part of a template source. -/
inductive Segment where
  | text (text : String)
  | tag (kind : TagKind) (tokens : List Token)
deriving Repr, DecidableEq

/-- What the mark next to the delimiter of a tag asks for.  A minus removes
all blanks on that side, a plus keeps them; without a mark the tag follows the
rules for whole lines. -/
inductive Control where
  | standard
  | keep
  | remove
deriving Repr, DecidableEq

/-- The control that a mark asks for. -/
def Control.ofChar? (c : Char) : Option Control :=
  if c = '-' then some .remove
  else if c = '+' then some .keep
  else none

end RouteAtlas.Template
