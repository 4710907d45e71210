/-
Module: RouteAtlas.Number.Binary64
Purpose: Non-negative finite numbers with a 53-bit significand, rounding to
  them, and the shortest decimal digits that name one.
Main exports: Binary64, Binary64.round, Binary64.shortest
-/

namespace RouteAtlas

/-- The number `significand * 2 ^ exponent`, with a significand below 2^53 and
an exponent between -1074 and 971. -/
structure Binary64 where
  significand : Nat
  exponent : Int
deriving Repr, DecidableEq

namespace Binary64

/-- The fraction `num / den` times `2 ^ e`, as a fraction. -/
def scaled (num den : Nat) (e : Int) : Nat × Nat :=
  match e with
  | .ofNat n => (num * Nat.pow 2 n, den)
  | .negSucc n => (num, den * Nat.pow 2 (n + 1))

/-- The nearest integer to a fraction; a tie goes to the even neighbour. -/
def nearestEven (num den : Nat) : Nat :=
  let floor := num / den
  let twice := 2 * (num % den)
  if twice > den || (twice == den && floor % 2 == 1) then floor + 1 else floor

/-- The representable number nearest to `num / den`; `none` when it is too
large for all of them. -/
def round (num den : Nat) : Option Binary64 :=
  if num = 0 then
    some ⟨0, 0⟩
  else
    let guess : Int := max (-1074) ((num.log2 : Int) - den.log2 - 53)
    let whole (q : Int) : Nat :=
      let (n, d) := scaled num den (-q)
      n / d
    let q := if whole guess ≥ Nat.pow 2 53 then guess + 1 else guess
    let q := if whole q ≥ Nat.pow 2 53 then q + 1 else q
    let (n, d) := scaled num den (-q)
    let m := nearestEven n d
    let (m, q) := if m = Nat.pow 2 53 then (Nat.pow 2 52, q + 1) else (m, q)
    if q > 971 then none else some ⟨m, q⟩

/-- The value as a fraction. -/
def fraction (x : Binary64) : Nat × Nat :=
  scaled x.significand 1 x.exponent

/-- The rounded product. -/
def mul (x y : Binary64) : Option Binary64 :=
  let (a, b) := x.fraction
  let (c, d) := y.fraction
  round (a * c) (b * d)

/-- The rounded quotient; the divisor must not be zero. -/
def div (x y : Binary64) : Option Binary64 :=
  let (a, b) := x.fraction
  let (c, d) := y.fraction
  round (a * d) (b * c)

/-- The number of digits before the point of `num / den`, negative when zeros
follow it: the least `k` with `num / den < 10 ^ k`. -/
def magnitude (num den : Nat) : Int :=
  let digits (n : Nat) : Int := (Nat.toDigits 10 n).length
  let k : Int := digits num - digits den
  let below (k : Int) : Bool :=
    match k with
    | .ofNat n => num < den * Nat.pow 10 n
    | .negSucc n => num * Nat.pow 10 (n + 1) < den
  if below k then k else k + 1

/-- The decimal of `count` digits nearest to the number among those that round
to it, as digits and the power of ten of the last one. -/
def digitsOf (x : Binary64) (count : Nat) : Option (Nat × Int) :=
  let (num, den) := x.fraction
  let step : Int := magnitude num den - count
  let (n, d) :=
    match step with
    | .ofNat k => (num, den * Nat.pow 10 k)
    | .negSucc k => (num * Nat.pow 10 (k + 1), den)
  let floor := n / d
  let reads (k : Nat) : Bool :=
    match step with
    | .ofNat e => round (k * Nat.pow 10 e) 1 == some x
    | .negSucc e => round k (Nat.pow 10 (e + 1)) == some x
  let upIsNearer := 2 * (n % d) > d
  let (near, far) := if upIsNearer then (floor + 1, floor) else (floor, floor + 1)
  if reads near then some (near, step)
  else if reads far then some (far, step)
  else none

/-- The fewest digits that read back as the number, with the power of ten of
the last one. -/
def shortest (x : Binary64) : Nat × Int :=
  ((List.range 17).findSome? fun n => x.digitsOf (n + 1)).getD (x.significand, 0)

end Binary64

end RouteAtlas
