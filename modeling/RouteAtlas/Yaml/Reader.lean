/-
Module: RouteAtlas.Yaml.Reader
Purpose: Reading a YAML text as a tree of scalars, sequences and mappings.
Main exports: Yaml.read
-/
import RouteAtlas.Yaml.Block
import RouteAtlas.Yaml.Node
import RouteAtlas.Yaml.Plain
import RouteAtlas.Yaml.Quoted

namespace RouteAtlas.Yaml

/-- A scalar on one or more lines, without a header of its own, and the place
after it. -/
def readScalar (flow : Bool) (floor : Nat) (start : Cursor) :
    Except Fault (Scalar × Cursor) := do
  match start.rest with
  | '\'' :: _ =>
      let (text, after) ← readQuoted .single start
      return (⟨false, text⟩, after)
  | '"' :: _ =>
      let (text, after) ← readQuoted .double start
      return (⟨false, text⟩, after)
  | rest =>
      if startsPlain flow rest then
        let (text, after) ← readPlain flow floor start
        return (⟨true, text⟩, after)
      else
        throw .misplaced

/-!
Every function below takes the number of steps that it may make.  A step either
consumes a character or enters a collection at the place it starts, so twice the
length of the text is enough.
-/

mutual

/-- A node inside brackets, and the place right after it. -/
def flowNode : Nat → Cursor → Except Fault (Node × Cursor)
  | 0, _ => .error .misplaced
  | fuel + 1, start =>
      match start.rest with
      | '[' :: _ => flowItems fuel [] ((start.advance true).skip true).1
      | '\x7b' :: _ => flowEntries fuel [] ((start.advance true).skip true).1
      | _ => do
          let (scalar, after) ← readScalar true 0 start
          return (.scalar scalar, after)

/-- The value after the colon of an entry inside brackets, and the next
token. -/
def flowValue : Nat → Cursor → Except Fault (Node × Cursor)
  | 0, _ => .error .misplaced
  | fuel + 1, colon =>
      let start := ((colon.advance false).skip true).1
      match start.rest with
      | ',' :: _ | ']' :: _ | '\x7d' :: _ => .ok (.empty, start)
      | _ => do
          let (value, after) ← flowNode fuel start
          return (value, (after.skip true).1)

/-- The items of a sequence in brackets, after those already read, last one
first.  An entry among them is a mapping of its own. -/
def flowItems : Nat → List Node → Cursor → Except Fault (Node × Cursor)
  | 0, _, _ => .error .misplaced
  | fuel + 1, items, start =>
      if start.atEnd then
        .error .misplaced
      else
        match start.rest with
        | ']' :: _ => .ok (.sequence items.reverse, start.advance false)
        | _ => do
            let (node, after) ← flowNode fuel start
            let next := (after.skip true).1
            let (item, next) ←
              match next.rest, node with
              | ':' :: _, .scalar key =>
                  if start.spansKey next then do
                    let (value, next) ← flowValue fuel next
                    pure (Node.mapping [(key, value)], next)
                  else
                    throw .misplaced
              | _, _ => pure (node, next)
            match next.rest with
            | ',' :: _ =>
                flowItems fuel (item :: items) ((next.advance true).skip true).1
            | ']' :: _ =>
                return (.sequence (item :: items).reverse, next.advance false)
            | _ => throw .misplaced

/-- The entries of a mapping in braces, after those already read, last one
first.  A key without a colon has an empty value. -/
def flowEntries : Nat → List (Scalar × Node) → Cursor →
    Except Fault (Node × Cursor)
  | 0, _, _ => .error .misplaced
  | fuel + 1, entries, start =>
      if start.atEnd then
        .error .misplaced
      else
        match start.rest with
        | '\x7d' :: _ => .ok (.mapping entries.reverse, start.advance false)
        | _ => do
            let (key, after) ← readScalar true 0 start
            let next := (after.skip true).1
            let (value, next) ←
              match next.rest with
              | ':' :: _ =>
                  if start.spansKey next then flowValue fuel next
                  else throw .misplaced
              | _ => pure (Node.empty, next)
            let entries := (key, value) :: entries
            match next.rest with
            | ',' :: _ =>
                flowEntries fuel entries ((next.advance true).skip true).1
            | '\x7d' :: _ =>
                return (.mapping entries.reverse, next.advance false)
            | _ => throw .misplaced

end

mutual

/-- A node outside brackets that reaches at least the column `floor`, and the
next token. -/
def blockNode : Nat → Nat → Cursor → Except Fault (Node × Cursor)
  | 0, _, _ => .error .misplaced
  | fuel + 1, floor, start =>
      if start.atEntry then
        if start.fresh then blockItems fuel start.column [] start
        else .error .misplaced
      else
        match start.rest with
        | '[' :: _ | '\x7b' :: _ => do
            let (node, after) ← flowNode fuel start
            return (node, (after.skip false).1)
        | '|' :: _ => do
            let (text, after) ← readBlock false floor start
            return (.scalar ⟨false, text⟩, (after.skip false).1)
        | '>' :: _ => do
            let (text, after) ← readBlock true floor start
            return (.scalar ⟨false, text⟩, (after.skip false).1)
        | _ => do
            let (scalar, after) ← readScalar false floor start
            let next := (after.skip false).1
            if start.fresh && next.atColon false && start.spansKey next then
              blockEntries fuel start.column [] scalar next
            else
              return (.scalar scalar, next)

/-- The items of a sequence whose dashes stand in the given column, after those
already read, last one first; from a dash on. -/
def blockItems : Nat → Nat → List Node → Cursor → Except Fault (Node × Cursor)
  | 0, _, _, _ => .error .misplaced
  | fuel + 1, column, items, dash => do
      let start := ((dash.advance true).skip false).1
      let (item, next) ←
        if start.atEnd || start.column ≤ column then pure (Node.empty, start)
        else blockNode fuel (column + 1) start
      let items := item :: items
      if !next.atEnd && next.column == column && next.fresh && next.atEntry then
        blockItems fuel column items next
      else
        return (.sequence items.reverse, next)

/-- The entries of a mapping whose keys start in the given column, after those
already read, last one first; from the colon behind a key on.  The dashes of a
sequence may stand right below the key. -/
def blockEntries : Nat → Nat → List (Scalar × Node) → Scalar → Cursor →
    Except Fault (Node × Cursor)
  | 0, _, _, _, _ => .error .misplaced
  | fuel + 1, column, entries, key, colon => do
      let (start, crossed) := (colon.advance false).skip false
      let (value, next) ←
        if start.atEnd then pure (Node.empty, start)
        else if crossed && start.column ≤ column then
          if start.column == column && start.atEntry then
            blockItems fuel column [] start
          else
            pure (Node.empty, start)
        else blockNode fuel (column + 1) start
      let entries := (key, value) :: entries
      if next.atEnd || next.column < column then
        return (.mapping entries.reverse, next)
      else if next.column > column || !next.fresh then
        throw .misplaced
      else do
        let (key, after) ← readScalar false (column + 1) next
        let colon := (after.skip false).1
        if colon.atColon false && next.spansKey colon then
          blockEntries fuel column entries key colon
        else
          throw .misplaced

end

/-- Pass over a marker. -/
def Cursor.passMarker (cursor : Cursor) : Cursor :=
  ((⟨cursor.rest.drop 3, 3, false⟩ : Cursor).skip false).1

/-- Whether nothing but markers of the end of the document follows. -/
def Cursor.isFinished : Nat → Cursor → Bool
  | 0, _ => false
  | fuel + 1, cursor =>
      match cursor.rest with
      | [] => true
      | '.' :: _ => cursor.atMarker && cursor.passMarker.isFinished fuel
      | _ => false

/-- The node of the document that starts at the given place, and the place
after it.  Only after a marker a document may have no node. -/
def readDocument (fuel : Nat) (start : Cursor) :
    Except Fault (Node × Cursor) :=
  match start.rest with
  | [] => .ok (.empty, start)
  | c :: _ =>
      if start.atMarker && c == '-' then
        let start := start.passMarker
        if start.atEnd then .ok (.empty, start) else blockNode fuel 0 start
      else if start.atMarker then
        .error .misplaced
      else
        blockNode fuel 0 start

/-- The only document of a text; one without a node is empty. -/
def read (text : String) : Except Fault Node := do
  let chars :=
    match text.toList with
    | '\ufeff' :: rest => rest
    | chars => chars
  if !chars.all isAllowed then throw .forbiddenCharacter
  let chars := normalize chars
  let (node, next) ←
    readDocument (2 * chars.length + 2) ((Cursor.start chars).skip false).1
  if next.isFinished (chars.length + 1) then return node
  else if next.atMarker then throw .secondDocument
  else throw .misplaced

end RouteAtlas.Yaml
