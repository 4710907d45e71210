/-
Module: RouteAtlas.Json.Reading
Purpose: What a single pass over a JSON text meets, in the order of the text.
Main exports: Json.Reading, Json.Reading.skip, Json.Reading.ofJson
-/
import RouteAtlas.Json.Number
import RouteAtlas.Json.Value

namespace RouteAtlas.Json

/-!
A text need not be well formed to be read: what stands before its first fault
is met before the fault is.  A reading is therefore a tree whose last branch
may end in a break.  A consumer walks it from left to right and stops at the
first thing it cannot use, be that a value of the wrong kind or a break, so
the fault it reports is the first one in the text.
-/

/-- Why a text breaks off: it ends too early, or it goes on in a way that no
JSON text does. -/
inductive Break where
  | early
  | malformed
deriving Repr, DecidableEq

/-- The name of a member as it is met.  An unusable name is complete but
denotes no text. -/
inductive Key where
  | name (text : String)
  | unusable
  | broken (used skipped : Break)
deriving Repr, DecidableEq

mutual

/-- A value as it is met.  An unusable value is a complete token that denotes
nothing; a broken one tells apart the break met when it is used and the break
met when it is skipped, and whether a literal or a numeral had been begun. -/
inductive Reading where
  | null
  | bool (value : Bool)
  | number (value : Number)
  | string (text : String)
  | unusable
  | broken (begun : Bool) (used skipped : Break)
  | array (items : Items)
  | object (members : Members)

/-- What follows an opening bracket. -/
inductive Items where
  | close
  | broken (reason : Break)
  | item (head : Reading) (rest : Items)

/-- What follows an opening brace; `keyless` is something other than a name
where the first name should stand. -/
inductive Members where
  | close
  | broken (reason : Break)
  | keyless (found : Reading)
  | member (key : Key) (value : Reading) (rest : Members)

end

instance : Inhabited Reading := ⟨.null⟩

mutual

/-- Pass over a value that nobody needs. -/
def Reading.skip : Reading → Except Break Unit
  | .broken _ _ skipped => .error skipped
  | .array items => items.skip
  | .object members => members.skip
  | _ => .ok ()

/-- Pass over the items of an array. -/
def Items.skip : Items → Except Break Unit
  | .close => .ok ()
  | .broken reason => .error reason
  | .item head rest =>
      match head.skip with
      | .error reason => .error reason
      | .ok _ => rest.skip

/-- Pass over the members of an object. -/
def Members.skip : Members → Except Break Unit
  | .close => .ok ()
  | .broken reason => .error reason
  | .keyless _ => .error .malformed
  | .member (.broken _ skipped) _ _ => .error skipped
  | .member _ value rest =>
      match value.skip with
      | .error reason => .error reason
      | .ok _ => rest.skip

end

mutual

/-- The reading of a value: complete, and the same whatever text the value was
written in. -/
def Reading.ofJson : Json → Reading
  | .null => .null
  | .bool value => .bool value
  | .int value => .number (.integer value)
  | .string text => .string text
  | .array items => .array (Items.ofList items)
  | .object members => .object (Members.ofList members)

/-- The reading of the items of an array. -/
def Items.ofList : List Json → Items
  | [] => .close
  | item :: rest => .item (Reading.ofJson item) (Items.ofList rest)

/-- The reading of the members of an object. -/
def Members.ofList : List (String × Json) → Members
  | [] => .close
  | (key, value) :: rest =>
      .member (.name key) (Reading.ofJson value) (Members.ofList rest)

end

end RouteAtlas.Json
