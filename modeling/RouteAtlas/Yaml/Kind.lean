/-
Module: RouteAtlas.Yaml.Kind
Purpose: What the text of a scalar without quotes stands for.
Main exports: Yaml.Kind, Yaml.kindOf, Yaml.natural?, Yaml.Scalar.kind
-/
import RouteAtlas.Yaml.Node

namespace RouteAtlas.Yaml

/-- What a scalar stands for. -/
inductive Kind where
  | null
  | bool (value : Bool)
  /-- An integer that is not negative. -/
  | natural (value : Nat)
  /-- A negative integer, or a number that is no integer. -/
  | number
  | text
deriving Repr, DecidableEq

/-- Whether a text stands for nothing. -/
def isNull (text : String) : Bool :=
  ["", "~", "null", "Null", "NULL"].contains text

/-- The truth value that a text stands for. -/
def bool? (text : String) : Option Bool :=
  [("true", true), ("True", true), ("TRUE", true), ("false", false),
    ("False", false), ("FALSE", false)].lookup text

/-- The value of a digit. -/
def digit? (base : Nat) (c : Char) : Option Nat :=
  let value :=
    if '0' ≤ c ∧ c ≤ '9' then c.toNat - '0'.toNat
    else if 'a' ≤ c ∧ c ≤ 'f' then c.toNat - 'a'.toNat + 10
    else if 'A' ≤ c ∧ c ≤ 'F' then c.toNat - 'A'.toNat + 10
    else base
  if value < base then some value else none

/-- The value of one or more digits. -/
def digits? (base : Nat) : List Char → Option Nat
  | [] => none
  | chars => chars.foldlM (fun n c => (digit? base c).map (base * n + ·)) 0

/-- A decimal number with a zero in front of other digits is a text, such as a
telephone number. -/
def isPadded : List Char → Bool
  | '0' :: c :: rest => (c :: rest).all Char.isDigit
  | _ => false

/-- The value of digits after a letter that names their base, or of decimal
digits. -/
def magnitude? (chars : List Char) : Option Nat :=
  match chars with
  | '0' :: 'x' :: rest => digits? 16 rest
  | '0' :: 'o' :: rest => digits? 8 rest
  | '0' :: 'b' :: rest => digits? 2 rest
  | _ => if isPadded chars then none else digits? 10 chars

/-- The integer below `bound` that a text stands for; a plus may stand in
front. -/
def natural? (bound : Nat) (text : String) : Option Nat :=
  let chars :=
    match text.toList with
    | '+' :: rest => rest
    | chars => chars
  (magnitude? chars).filter (· < bound)

/-- Whether a text stands for a negative integer, or for zero with a minus, of
at most 128 bits. -/
def isNegative (text : String) : Bool :=
  match text.toList with
  | '-' :: rest => ((magnitude? rest).filter (· ≤ Nat.pow 2 127)).isSome
  | _ => false

/-- The digits of a decimal fraction: those before and those after the point,
one of which may be missing, and the rest of the text. -/
def fraction? (chars : List Char) :
    Option (List Char × List Char × List Char) :=
  let whole := chars.takeWhile Char.isDigit
  let (after, rest) :=
    match chars.dropWhile Char.isDigit with
    | '.' :: rest => (rest.takeWhile Char.isDigit, rest.dropWhile Char.isDigit)
    | rest => ([], rest)
  if whole.isEmpty && after.isEmpty then none else some (whole, after, rest)

/-- The power of ten at the end of a decimal fraction. -/
def power? : List Char → Option Int
  | [] => some 0
  | e :: rest =>
      if e = 'e' ∨ e = 'E' then
        match rest with
        | '-' :: digits => (digits? 10 digits).map fun n => -(n : Int)
        | '+' :: digits => (digits? 10 digits).map fun n => (n : Int)
        | digits => (digits? 10 digits).map fun n => (n : Int)
      else
        none

/-- Whether the digits of a number, with a power of ten, stay below the limit
from where on a 64-bit float is infinite. -/
def isFinite (digits : List Char) (power : Int) : Bool :=
  let digits := digits.dropWhile (· == '0')
  let reach : Int := digits.length + power
  if digits.isEmpty || reach < 300 then true
  else if reach > 309 then false
  else
    let value := digits.foldl (fun n c => 10 * n + (c.toNat - '0'.toNat)) 0
    let limit := Nat.pow 2 1024 - Nat.pow 2 970
    match power with
    | .ofNat n => value * Nat.pow 10 n < limit
    | .negSucc n => value < limit * Nat.pow 10 (n + 1)

/-- Whether a text is a decimal fraction in the range of 64-bit floats. -/
def isDecimal (chars : List Char) : Bool :=
  let unsigned :=
    match chars with
    | '-' :: rest => rest
    | chars => chars
  match fraction? unsigned with
  | none => false
  | some (whole, after, rest) =>
      match power? rest with
      | none => false
      | some power => isFinite (whole ++ after) (power - after.length)

/-- Whether a text stands for a number that may be no integer. -/
def isReal (text : String) : Bool :=
  let chars := text.toList
  let unpadded :=
    match chars with
    | '+' :: rest | '-' :: rest => !isPadded rest
    | _ => !isPadded chars
  let special :=
    [".inf", ".Inf", ".INF", "+.inf", "+.Inf", "+.INF", "-.inf", "-.Inf",
      "-.INF", ".nan", ".NaN", ".NAN"].contains text
  let decimal :=
    match chars with
    | '+' :: '-' :: _ => false
    | '+' :: rest => isDecimal rest
    | _ => isDecimal chars
  unpadded && (special || decimal)

/-- What a text without quotes stands for. -/
def kindOf (text : String) : Kind :=
  if isNull text then .null
  else
    match bool? text with
    | some value => .bool value
    | none =>
        match natural? (Nat.pow 2 128) text with
        | some value => .natural value
        | none => if isNegative text || isReal text then .number else .text

/-- What a scalar stands for. -/
def Scalar.kind (scalar : Scalar) : Kind :=
  if scalar.plain then kindOf scalar.text else .text

end RouteAtlas.Yaml
