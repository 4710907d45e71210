/-
Module: RouteAtlas.Json.Number
Purpose: Numerals of a JSON text and how messages show them.
Main exports: Json.Numeral, Json.Numeral.value, Json.Number, Json.Number.shown
-/
import RouteAtlas.Number.Binary64

namespace RouteAtlas.Json

/-- A numeral: its sign, its digits before the point, and, where it has them,
its digits after the point and its signed power of ten. -/
structure Numeral where
  negative : Bool
  whole : List Char
  fraction : Option (List Char)
  power : Option (Bool × List Char)
deriving Repr, DecidableEq

/-- A number as it is read: an integer of 64 bits, or a real number. -/
inductive Number where
  | integer (value : Int)
  | real (negative : Bool) (magnitude : Binary64)
deriving Repr, DecidableEq

namespace Numeral

/-- The natural number that a list of decimal digits denotes. -/
def digitsValue (digits : List Char) : Nat :=
  digits.foldl (fun n c => 10 * n + (c.toNat - 48)) 0

/-- The first digits as a number below 2^64, with the count of digits that did
not fit. -/
def leading : Nat → List Char → Nat × Nat
  | n, [] => (n, 0)
  | n, c :: rest =>
      let next := 10 * n + (c.toNat - 48)
      if next < Nat.pow 2 64 then leading next rest else (n, (c :: rest).length)

/-- Significand and power of ten of a numeral; digits beyond 64 bits are
dropped. -/
def parts (numeral : Numeral) : Nat × Int :=
  let (significand, dropped) := leading 0 numeral.whole
  let after := numeral.fraction.getD []
  let (significand, lost) := leading significand after
  let power : Int :=
    match numeral.power with
    | none => 0
    | some (negative, digits) =>
        if negative then -(digitsValue digits : Int) else digitsValue digits
  (significand, dropped - ((after.length - lost : Nat) : Int) + power)

/-- A power of ten as it is represented. -/
def tenTo (n : Nat) : Option Binary64 :=
  Binary64.round (Nat.pow 10 n) 1

/-- `x / 10 ^ n`, in steps of at most 308. -/
def divideByTens (x : Binary64) (n : Nat) : Option Binary64 :=
  if n ≤ 308 then
    (tenTo n).bind x.div
  else if x.significand = 0 then
    some x
  else
    (tenTo 308).bind x.div |>.bind fun smaller =>
      if smaller.significand = 0 then some smaller else divideByTens smaller (n - 308)
termination_by n

/-- The real number of a significand and a power of ten; `none` when it is out
of range. -/
def real? (significand : Nat) (power : Int) : Option Binary64 :=
  (Binary64.round significand 1).bind fun x =>
    match power with
    | .ofNat n =>
        if n ≤ 308 then (tenTo n).bind x.mul
        else if x.significand = 0 then some x else none
    | .negSucc n => divideByTens x (n + 1)

/-- What a numeral denotes; `none` when it is out of range.  Without a point
and a power it is an integer if 64 bits hold it; a negative zero is real. -/
def value (numeral : Numeral) : Option Number :=
  let n := digitsValue numeral.whole
  let isInteger := numeral.fraction.isNone && numeral.power.isNone
  if isInteger && !numeral.negative && n < Nat.pow 2 64 then
    some (.integer n)
  else if isInteger && numeral.negative && 0 < n && n ≤ Nat.pow 2 63 then
    some (.integer (-n))
  else
    let (significand, power) := numeral.parts
    (real? significand power).map (.real numeral.negative)

end Numeral

namespace Number

/-- The digits of a real number with a point among them, or with a power of
ten when the point would be further than 16 places to the right of the first
digit or 5 to the left. -/
def realText (x : Binary64) : List Char :=
  if x.significand = 0 then
    ['0', '.', '0']
  else
    let (n, power) := x.shortest
    let digits := Nat.toDigits 10 n
    let point : Int := digits.length + power
    if 0 ≤ power && point ≤ 16 then
      digits ++ List.replicate power.toNat '0' ++ ['.', '0']
    else if 0 < point && point ≤ 16 then
      digits.take point.toNat ++ '.' :: digits.drop point.toNat
    else if -5 < point && point ≤ 0 then
      ['0', '.'] ++ List.replicate (-point).toNat '0' ++ digits
    else
      let exponent := (toString (point - 1)).toList
      match digits with
      | [digit] => digit :: 'e' :: exponent
      | first :: rest => first :: '.' :: rest ++ 'e' :: exponent
      | [] => []

/-- How a message names a number. -/
def shown : Number → String
  | .integer value => "integer `" ++ toString value ++ "`"
  | .real negative x =>
      "floating point `" ++ (if negative then "-" else "") ++
        String.ofList (realText x) ++ "`"

end Number

end RouteAtlas.Json
