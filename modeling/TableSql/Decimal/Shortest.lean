import TableSql.Decimal.Binary64

/-!
# Shortest decimals

* `Decimal` — digits with the place of the decimal point.
* `Binary64.shortest` — the fewest digits that read back as the same number, and of those the
  nearest to it.
* `DecimalLayout`, `Decimal.render` — how digits are laid out as text.

A decimal reads back as a number exactly when it lies between the points half-way to the number's
two neighbours, the end points included when the significand is even.
-/

set_option autoImplicit false

namespace TableSql

/-- The number `0.digits * 10 ^ point`. -/
structure Decimal where
  digits : List Char
  point : Int
  deriving DecidableEq, Repr

/-- `a * 10 ^ n ≤ b` over the whole numbers, for any sign of `n`. -/
def scaledLe (a b : Nat) (n : Int) : Bool :=
  if 0 ≤ n then decide (a * Nat.pow 10 n.toNat ≤ b) else decide (a ≤ b * Nat.pow 10 (-n).toNat)

namespace Binary64

/-- The ends of the interval that rounds to a number, and the number itself, as numerators over one
denominator. -/
structure Interval where
  low : Nat
  value : Nat
  high : Nat
  den : Nat
  closed : Bool

/-- The interval that rounds to a number. Below a power of two the neighbour is half as far. -/
def interval (x : Binary64) : Interval :=
  let below := if x.significand = Nat.pow 2 52 && x.exponent > minExponent then 1 else 2
  let m := 4 * x.significand
  let exponent := x.exponent - 2
  let up := if 0 ≤ exponent then Nat.pow 2 exponent.toNat else 1
  { low := (m - below) * up
    value := m * up
    high := (m + 2) * up
    den := if 0 ≤ exponent then 1 else Nat.pow 2 (-exponent).toNat
    closed := x.significand % 2 == 0 }

/-- Is `c * 10 ^ n` in the interval? -/
def Interval.holds (i : Interval) (c : Nat) (n : Int) : Bool :=
  let belowLow := scaledLe (c * i.den) i.low n
  let aboveHigh := scaledLe i.high (c * i.den) (-n)
  if i.closed then
    (!belowLow || scaledLe i.low (c * i.den) (-n)) && (!aboveHigh || scaledLe (c * i.den) i.high n)
  else !belowLow && !aboveHigh

/-- The value divided by `10 ^ n`, rounded down. -/
def Interval.floorAt (i : Interval) (n : Int) : Nat :=
  if 0 ≤ n then i.value / (i.den * Nat.pow 10 n.toNat)
  else i.value * Nat.pow 10 (-n).toNat / i.den

/-- Is `c` at least as near to the value over `10 ^ n` as `c + 1`, an even `c` winning a tie? -/
def Interval.prefersFloor (i : Interval) (c : Nat) (n : Int) : Bool :=
  let (num, den) :=
    if 0 ≤ n then (i.value, i.den * Nat.pow 10 n.toNat)
    else (i.value * Nat.pow 10 (-n).toNat, i.den)
  let twice := 2 * (num - c * den)
  twice < den || (twice == den && c % 2 == 0)

/-- The multiple of `10 ^ n` next to the value that lies in the interval, if there is one. -/
def Interval.onGrid? (i : Interval) (n : Int) : Option Nat :=
  let c := i.floorAt n
  match i.holds c n, i.holds (c + 1) n with
  | true, true => some (if i.prefersFloor c n then c else c + 1)
  | true, false => some c
  | false, true => some (c + 1)
  | false, false => none

/-- The least `point` with the value below `10 ^ point`, among those around an estimate. -/
def Interval.point (i : Interval) : Int :=
  let estimate : Int := ((i.value.log2 : Int) - (i.den.log2 : Int)) * 1233 / 4096 - 1
  let candidates := (List.range 5).map fun (k : Nat) => estimate + (k : Int)
  (candidates.find? fun p => i.floorAt p == 0).getD estimate

/-- The fewest digits that read back as the same number. -/
def shortest (x : Binary64) : Decimal :=
  if x.significand = 0 then ⟨['0'], 1⟩
  else
    let i := x.interval
    let point := i.point
    let grids := (List.range 17).map fun (k : Nat) => point - 1 - (k : Int)
    match grids.findSome? fun n => (i.onGrid? n).map fun c => (c, n) with
    | some (c, n) =>
      let digits := Nat.toDigits 10 c
      ⟨(digits.reverse.dropWhile (· == '0')).reverse, n + (digits.length : Int)⟩
    | none => ⟨[], 0⟩

end Binary64

/-- How digits are laid out: the places of the point for which no exponent is written, and what
stands before a positive exponent. -/
structure DecimalLayout where
  leastPoint : Int
  greatestPoint : Int
  positiveSign : String

namespace Decimal

/-- The digits of a decimal as text. A number without a fraction ends in `.0`, unless it has an
exponent. -/
def render (layout : DecimalLayout) (x : Decimal) : String :=
  let count : Int := x.digits.length
  if x.point < layout.leastPoint || layout.greatestPoint < x.point then
    let exponent := x.point - 1
    let tail := x.digits.drop 1
    String.ofList (x.digits.take 1) ++ (if tail.isEmpty then "" else "." ++ String.ofList tail) ++
      "e" ++ (if exponent < 0 then "-" else layout.positiveSign) ++ toString exponent.natAbs
  else if x.point ≤ 0 then
    "0." ++ String.ofList (List.replicate (-x.point).toNat '0' ++ x.digits)
  else if count ≤ x.point then
    String.ofList (x.digits ++ List.replicate (x.point - count).toNat '0') ++ ".0"
  else
    String.ofList (x.digits.take x.point.toNat) ++ "." ++
      String.ofList (x.digits.drop x.point.toNat)

end Decimal

end TableSql
