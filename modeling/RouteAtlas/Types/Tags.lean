/-
Module: RouteAtlas.Types.Tags
Purpose: The tags of a record member and their compact written form.
Main exports: Tags, Tags.parse, Tags.encode, Tags.get?
-/
import RouteAtlas.Text.Blank

namespace RouteAtlas

/-- Keys with values, in order. -/
structure Tags where
  entries : List (String × String)
deriving Repr, DecidableEq, Inhabited

namespace Tags

/-- No tags. -/
def empty : Tags := ⟨[]⟩

/-- Whether there are no tags. -/
def isEmpty (tags : Tags) : Bool :=
  tags.entries.isEmpty

/-- The first value of a key; an empty value counts as absent. -/
def get? (tags : Tags) (key : String) : Option String :=
  match tags.entries.find? (·.1 == key) with
  | none => none
  | some (_, value) => if value = "" then none else some value

/-- Whether a character may stand in the key of a written tag. -/
def isKeyChar (c : Char) : Bool :=
  !(Text.isBlank c || c == ':' || c == '"')

/-!
The compact form is a run of `key:"value"` tags with blanks before them.  In a
value a backslash makes the next character stand for itself.  The scan ends at
the first thing that is not such a tag and keeps the tags before it.
-/

/-- Where a scan stands.  What was read of a key or a value is kept last
character first. -/
inductive Scan where
  /-- Before a tag. -/
  | between
  /-- In a key. -/
  | key (read : List Char)
  /-- After the colon of a tag. -/
  | opened (key : List Char)
  /-- In a value. -/
  | value (key read : List Char)
  /-- In a value, after a backslash. -/
  | escaped (key read : List Char)
deriving Repr, DecidableEq

/-- The tags that a scan still finds. -/
def scan : Scan → List Char → List (String × String)
  | _, [] => []
  | .between, c :: rest =>
      if Text.isBlank c then scan .between rest
      else if isKeyChar c then scan (.key [c]) rest
      else []
  | .key read, c :: rest =>
      if c = ':' then scan (.opened read) rest
      else if isKeyChar c then scan (.key (c :: read)) rest
      else []
  | .opened key, c :: rest =>
      if c = '"' then scan (.value key []) rest else []
  | .value key read, c :: rest =>
      if c = '\\' then scan (.escaped key read) rest
      else if c = '"' then
        (String.ofList key.reverse, String.ofList read.reverse) ::
          scan .between rest
      else scan (.value key (c :: read)) rest
  | .escaped key read, c :: rest => scan (.value key (c :: read)) rest

/-- The tags of a written form. -/
def parse (raw : String) : Tags :=
  ⟨scan .between raw.toList⟩

/-- One character of a written value. -/
def encodeChar (c : Char) : List Char :=
  if c = '\\' ∨ c = '"' then ['\\', c] else [c]

/-- The written form of one tag. -/
def encodeEntry (entry : String × String) : List Char :=
  entry.1.toList ++ ':' :: '"' :: entry.2.toList.flatMap encodeChar ++ ['"']

/-- The written form of tags, without blanks. -/
def encode (tags : Tags) : String :=
  String.ofList (tags.entries.flatMap encodeEntry)

end Tags

end RouteAtlas
