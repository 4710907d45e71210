/-
Module: RouteAtlas.Json.Fault
Purpose: Why a JSON text or value is refused, and the wording of each reason.
Main exports: Json.Found, Json.Mismatch, Json.Fault
-/
import RouteAtlas.Json.Number
import RouteAtlas.Json.Reading
import RouteAtlas.Text.Shown

namespace RouteAtlas.Json

/-- A value of the wrong kind, as a message names it. -/
inductive Found where
  | null
  | bool (value : Bool)
  | number (value : Number)
  | string (text : String)
  | sequence
  | map
  | unitVariant
deriving Repr, DecidableEq

/-- Why a well-formed value is not one of the model. -/
inductive Mismatch where
  | wrongKind (found : Found) (expected : String)
  | wrongValue (found : Found) (expected : String)
  | wrongLength (length : Nat) (expected : String)
  | missingField (name : String)
  | duplicateField (name : String)
  | unknownVariant (name : String) (known : List String)
deriving Repr, DecidableEq

/-- Why a text is refused: it breaks off early, it is malformed, or its data
do not fit. -/
inductive Fault where
  | broken (reason : Break)
  | data (reason : Mismatch)
deriving Repr, DecidableEq

namespace Found

/-- How a message names a value. -/
def text : Found → String
  | .null => "null"
  | .bool value => "boolean `" ++ (if value then "true" else "false") ++ "`"
  | .number value => value.shown
  | .string text => "string " ++ Text.shown text
  | .sequence => "sequence"
  | .map => "map"
  | .unitVariant => "unit variant"

end Found

namespace Mismatch

/-- A name between backquotes. -/
def backquoted (name : String) : String :=
  "`" ++ name ++ "`"

/-- The choice among known names. -/
def choice : List String → String
  | [] => "there are no variants"
  | [only] => "expected " ++ backquoted only
  | [one, other] => "expected " ++ backquoted one ++ " or " ++ backquoted other
  | names =>
      "expected one of " ++ ", ".intercalate (names.map backquoted)

/-- The wording of a mismatch. -/
def message : Mismatch → String
  | .wrongKind found expected =>
      "invalid type: " ++ found.text ++ ", expected " ++ expected
  | .wrongValue found expected =>
      "invalid value: " ++ found.text ++ ", expected " ++ expected
  | .wrongLength length expected =>
      "invalid length " ++ toString length ++ ", expected " ++ expected
  | .missingField name => "missing field " ++ backquoted name
  | .duplicateField name => "duplicate field " ++ backquoted name
  | .unknownVariant name known =>
      "unknown variant " ++ backquoted name ++ ", " ++ choice known

end Mismatch

namespace Fault

/-- A text that goes on in a way that no JSON text does. -/
abbrev malformed : Fault := .broken .malformed

/-- The wording of a fault. -/
def message : Fault → String
  | .broken .early => "unexpected end of the text"
  | .broken .malformed => "malformed text"
  | .data reason => reason.message

end Fault

/-- The fault of a value that is not of the expected kind.  An array or an
object is refused at its opening bracket, whatever it holds. -/
def Reading.refuse (expected : String) : Reading → Fault
  | .null => .data (.wrongKind .null expected)
  | .bool value => .data (.wrongKind (.bool value) expected)
  | .number value => .data (.wrongKind (.number value) expected)
  | .string text => .data (.wrongKind (.string text) expected)
  | .unusable => .malformed
  | .broken _ used _ => .broken used
  | .array _ => .data (.wrongKind .sequence expected)
  | .object _ => .data (.wrongKind .map expected)

end RouteAtlas.Json
