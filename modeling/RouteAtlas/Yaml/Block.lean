/-
Module: RouteAtlas.Yaml.Block
Purpose: Reading scalars that are written as a block of lines.
Main exports: Yaml.BlockHeader, Yaml.readBlock
-/
import RouteAtlas.Yaml.Cursor

namespace RouteAtlas.Yaml

/-- What becomes of the line breaks at the end of a block. -/
inductive Chomp where
  /-- All are dropped. -/
  | strip
  /-- The first one is kept. -/
  | clip
  /-- All are kept. -/
  | keep
deriving Repr, DecidableEq

/-- What the first line of a block says: what becomes of the last line breaks,
and by how much the block is indented, where that is given. -/
structure BlockHeader where
  chomp : Chomp
  indent : Option Nat
deriving Repr, DecidableEq

/-- The chomping that a mark asks for. -/
def Chomp.ofChar? (c : Char) : Option Chomp :=
  if c = '-' then some .strip
  else if c = '+' then some .keep
  else none

/-- The indentation that a digit asks for. -/
def indentOfChar? (c : Char) : Option Nat :=
  if '1' ≤ c ∧ c ≤ '9' then some (c.toNat - '0'.toNat) else none

/-- The marks after the character that opens a block, in either order, and
what follows them. -/
def readMarks : List Char → BlockHeader × List Char
  | [] => (⟨.clip, none⟩, [])
  | c :: rest =>
      match Chomp.ofChar? c, indentOfChar? c with
      | some chomp, _ =>
          match rest with
          | d :: more =>
              match indentOfChar? d with
              | some indent => (⟨chomp, some indent⟩, more)
              | none => (⟨chomp, none⟩, rest)
          | [] => (⟨chomp, none⟩, [])
      | none, some indent =>
          match rest with
          | d :: more =>
              match Chomp.ofChar? d with
              | some chomp => (⟨chomp, some indent⟩, more)
              | none => (⟨.clip, some indent⟩, rest)
          | [] => (⟨.clip, some indent⟩, [])
      | none, none => (⟨.clip, none⟩, c :: rest)

/-- What follows the rest of a header line: blanks, perhaps a comment, and the
end of the line. -/
def dropHeaderEnd (comment : Bool) : List Char → Except Fault (List Char)
  | [] => .ok []
  | c :: rest =>
      if isBreak c then .ok rest
      else if comment || isBlank c then dropHeaderEnd comment rest
      else if c = '#' then dropHeaderEnd true rest
      else .error .wrongHeader

/-- A line of a text with the character that ends it, if any. -/
structure Line where
  text : List Char
  ending : Option Char
deriving Repr, DecidableEq

/-- The lines of a text. -/
def splitLines : List Char → List Line
  | [] => []
  | c :: rest =>
      if isBreak c then
        ⟨[], some c⟩ :: splitLines rest
      else
        match splitLines rest with
        | [] => [⟨[c], none⟩]
        | line :: others => ⟨c :: line.text, line.ending⟩ :: others

/-- The text of lines. -/
def joinLines (lines : List Line) : List Char :=
  lines.flatMap fun line => line.text ++ line.ending.toList

/-- The number of spaces at the start of a line. -/
def spacesOf (text : List Char) : Nat :=
  (text.takeWhile (· == ' ')).length

/-- The line breaks of the empty lines a block starts with, last one first,
and the column that the first other line and the empty ones reach.  Only
needed where the indentation is not given. -/
def measure (breaks : List Char) (reached : Nat) :
    List Line → Except Fault (List Char × Nat × List Line)
  | [] => .ok (breaks, reached, [])
  | line :: rest =>
      let spaces := spacesOf line.text
      let reached := max reached spaces
      match line.text.drop spaces with
      | [] =>
          match line.ending with
          | some ending => measure (ending :: breaks) reached rest
          | none => .ok (breaks, reached, [])
      | c :: _ =>
          if c == '\t' then .error .tabAsIndentation else .ok (breaks, reached, line :: rest)

/-- What was read of a block. -/
structure BlockText where
  /-- The characters, last one first. -/
  read : List Char
  /-- The end of the last line that is not empty. -/
  ending : Option Char
  /-- The ends of the empty lines after it, last one first. -/
  empties : List Char
  /-- Whether the last line that is not empty starts with a blank. -/
  indented : Bool
deriving Repr, DecidableEq

namespace BlockText

/-- Add a line that is not empty.  In a folded block a single line feed between
two lines becomes a space, unless one of them starts with a blank. -/
def addLine (folded : Bool) (text : List Char) (ending : Option Char)
    (block : BlockText) : BlockText :=
  let indented := (text.head?.map isBlank).getD false
  let between :=
    if folded && block.ending == some '\n' && !block.indented && !indented then
      if block.empties.isEmpty then [' '] else block.empties
    else
      block.empties ++ block.ending.toList
  ⟨text.reverse ++ (between ++ block.read), ending, [], indented⟩

/-- The characters of the block, last one first. -/
def finish (chomp : Chomp) (block : BlockText) : List Char :=
  match chomp with
  | .strip => block.read
  | .clip => block.ending.toList ++ block.read
  | .keep => block.empties ++ (block.ending.toList ++ block.read)

end BlockText

/-- The lines of a block with the given indentation, and the lines after
it. -/
def blockFrom (folded : Bool) (indent : Nat) (block : BlockText) :
    List Line → Except Fault (BlockText × List Line)
  | [] => .ok (block, [])
  | line :: rest =>
      let spaces := min indent (spacesOf line.text)
      match line.text.drop spaces, line.ending with
      | [], some ending =>
          blockFrom folded indent
            { block with empties := ending :: block.empties } rest
      | [], none => .ok (block, [])
      | c :: text, ending =>
          if spaces = indent then
            blockFrom folded indent
              (block.addLine folded (c :: text) ending) rest
          else if c = '\t' then .error .tabAsIndentation
          else .ok (block, line :: rest)

/-- A block scalar, from the character that opens it on, and the place after
it.  The block is indented at least to the column `floor`. -/
def readBlock (folded : Bool) (floor : Nat) (cursor : Cursor) :
    Except Fault (String × Cursor) := do
  let (header, rest) := readMarks cursor.rest.tail
  let rest ← dropHeaderEnd false rest
  let lines := splitLines rest
  let (indent, breaks, lines) ←
    match header.indent with
    | some given => pure ((floor - 1) + given, [], lines)
    | none => do
        let (breaks, reached, lines) ← measure [] 0 lines
        pure (max reached (max floor 1), breaks, lines)
  let (block, lines) ← blockFrom folded indent ⟨[], none, breaks, false⟩ lines
  return (String.ofList (block.finish header.chomp).reverse,
    ⟨joinLines lines, 0, true⟩)

end RouteAtlas.Yaml
