/-
Module: RouteAtlas.Json.Decoder
Purpose: Building typed values from readings, with the first fault of the text
  as the only one reported.
Main exports: Json.Decoder, Json.Slot, Json.Decoder.record,
  Json.Decoder.variant, Json.decodeText
-/
import RouteAtlas.Json.Fault
import RouteAtlas.Json.Reader

namespace RouteAtlas.Json

/-- How many arrays and objects may be open at once. -/
def nestingLimit : Nat := 127

/-- A way to build a typed value from a reading.  The first argument counts
the arrays and objects that may still be opened. -/
abbrev Decoder (α : Type) := Nat → Reading → Except Fault α

/-- One named member of a structure under construction: a draft of type `σ`
that is filled member by member. -/
structure Slot (σ : Type) where
  name : String
  /-- The structure is complete without it. -/
  optional : Bool
  isFilled : σ → Bool
  fill : Nat → Reading → σ → Except Fault σ

/-- What a variant of a choice carries. -/
inductive Payload (α : Type) where
  | none (value : α)
  | one (decode : Decoder α)

/-- Pass over a value that no slot takes. -/
def Reading.ignore (value : Reading) : Except Fault Unit :=
  match value.skip with
  | .error reason => .error (.broken reason)
  | .ok _ => .ok ()

/-- Fill a draft from the members of an object.  Members without a slot are
passed over, a repeated one is refused before its value is looked at. -/
def Members.fill {σ : Type} (slots : List (Slot σ)) (room : Nat) :
    Members → σ → Except Fault σ
  | .close, draft => .ok draft
  | .broken reason, _ => .error (.broken reason)
  | .keyless _, _ => .error .malformed
  | .member (.broken used _) _ _, _ => .error (.broken used)
  | .member .unusable _ _, _ => .error .malformed
  | .member (.name key) value rest, draft =>
      match slots.find? (·.name == key) with
      | none =>
          match value.ignore with
          | .error fault => .error fault
          | .ok _ => rest.fill slots room draft
      | some slot =>
          if slot.isFilled draft then
            .error (.data (.duplicateField key))
          else
            match slot.fill room value draft with
            | .error fault => .error fault
            | .ok draft => rest.fill slots room draft

/-- Fill a draft from the items of an array, slot by slot in order.  Slots that
are left over must be optional, items that are left over are refused. -/
def Items.fill {σ : Type} (expected : String) (room : Nat) :
    List (Slot σ) → Nat → Items → σ → Except Fault σ
  | _, _, .broken reason, _ => .error (.broken reason)
  | [], _, .close, draft => .ok draft
  | [], _, .item _ _, _ => .error .malformed
  | slot :: slots, index, .close, draft =>
      if slot.optional then
        Items.fill expected room slots (index + 1) .close draft
      else
        .error (.data (.wrongLength index expected))
  | slot :: slots, index, .item head rest, draft =>
      match slot.fill room head draft with
      | .error fault => .error fault
      | .ok draft => Items.fill expected room slots (index + 1) rest draft

/-- The items of an array as a list. -/
def Items.toList {α : Type} (decode : Reading → Except Fault α) :
    Items → Except Fault (List α)
  | .close => .ok []
  | .broken reason => .error (.broken reason)
  | .item head rest =>
      match decode head with
      | .error fault => .error fault
      | .ok value =>
          match rest.toList decode with
          | .error fault => .error fault
          | .ok values => .ok (value :: values)

/-- The members of an object with arbitrary names, in the order of the
text. -/
def Members.toEntries {α : Type} (decode : Reading → Except Fault α) :
    Members → Except Fault (List (String × α))
  | .close => .ok []
  | .broken reason => .error (.broken reason)
  | .keyless _ => .error .malformed
  | .member (.broken used _) _ _ => .error (.broken used)
  | .member .unusable _ _ => .error .malformed
  | .member (.name key) value rest =>
      match decode value with
      | .error fault => .error fault
      | .ok value =>
          match rest.toEntries decode with
          | .error fault => .error fault
          | .ok entries => .ok ((key, value) :: entries)

namespace Decoder

/-- A text. -/
def string : Decoder String
  | _, .string text => .ok text
  | _, other => .error (other.refuse "a string")

/-- A truth value. -/
def bool : Decoder Bool
  | _, .bool value => .ok value
  | _, other => .error (other.refuse "a boolean")

/-- A value or `null`. -/
def option {α : Type} (decode : Decoder α) : Decoder (Option α)
  | _, .null => .ok none
  | room, other =>
      match decode room other with
      | .error fault => .error fault
      | .ok value => .ok (some value)

/-- An array of any length. -/
def list {α : Type} (decode : Decoder α) : Decoder (List α)
  | 0, .array _ => .error .malformed
  | room + 1, .array items => items.toList (decode room)
  | _, other => .error (other.refuse "a sequence")

/-- An object with arbitrary names. -/
def entries {α : Type} (decode : Decoder α) : Decoder (List (String × α))
  | 0, .object _ => .error .malformed
  | room + 1, .object members => members.toEntries (decode room)
  | _, other => .error (other.refuse "a map")

/-- The length of a structure as a message names it. -/
def structureLength (label : String) (count : Nat) : String :=
  "struct " ++ label ++ " with " ++ toString count ++
    (if count = 1 then " element" else " elements")

/-- A structure, written as an object or as an array of its members in
order. -/
def record {σ α : Type} (label : String) (slots : List (Slot σ))
    (empty : σ) (finish : σ → Except Fault α) : Decoder α
  | 0, .object _ => .error .malformed
  | 0, .array _ => .error .malformed
  | room + 1, .object members =>
      match members.fill slots room empty with
      | .error fault => .error fault
      | .ok draft => finish draft
  | room + 1, .array items =>
      match items.fill (structureLength label slots.length) room slots 0 empty with
      | .error fault => .error fault
      | .ok draft => finish draft
  | _, other => .error (other.refuse ("struct " ++ label))

/-- The payload of a variant that carries none: it must be `null`. -/
def unitPayload {α : Type} (value : α) : Reading → Except Fault α
  | .null => .ok value
  | other => .error (other.refuse "unit")

/-- What must follow the only member of a choice written as an object. -/
def onlyMember {α : Type} (value : α) : Members → Except Fault α
  | .close => .ok value
  | .broken reason => .error (.broken reason)
  | _ => .error .malformed

/-- A choice among named variants, written as a name or as an object with one
member. -/
def variant {α : Type} (options : List (String × Payload α)) : Decoder α
  | _, .string name =>
      match options.lookup name with
      | none => .error (.data (.unknownVariant name (options.map (·.1))))
      | some (.none value) => .ok value
      | some (.one _) =>
          .error (.data (.wrongKind .unitVariant "newtype variant"))
  | 0, .object _ => .error .malformed
  | _ + 1, .object .close => .error .malformed
  | _ + 1, .object (.broken reason) => .error (.broken reason)
  | _ + 1, .object (.keyless found) =>
      .error (found.refuse "variant identifier")
  | _ + 1, .object (.member (.broken used _) _ _) => .error (.broken used)
  | _ + 1, .object (.member .unusable _ _) => .error .malformed
  | room + 1, .object (.member (.name name) value rest) =>
      match options.lookup name with
      | none => .error (.data (.unknownVariant name (options.map (·.1))))
      | some payload =>
          let decoded :=
            match payload with
            | .none result => unitPayload result value
            | .one decode => decode room value
          match decoded with
          | .error fault => .error fault
          | .ok result => onlyMember result rest
  | _, .broken false used _ => .error (.broken used)
  | _, _ => .error .malformed

/-- A choice among variants that carry nothing. -/
def name {α : Type} (options : List (String × α)) : Decoder α :=
  variant (options.map fun (name, value) => (name, .none value))

end Decoder

/-- A required member of a finished draft. -/
def require {α : Type} (name : String) : Option α → Except Fault α
  | some value => .ok value
  | none => .error (.data (.missingField name))

/-- Decode a whole text.  What follows the value is only looked at when the
value itself is accepted. -/
def decodeText {α : Type} (decode : Decoder α) (text : String) :
    Except Fault α :=
  let document := read text
  match decode nestingLimit document.value with
  | .error fault => .error fault
  | .ok value => if document.trailing then .error .malformed else .ok value

end RouteAtlas.Json
