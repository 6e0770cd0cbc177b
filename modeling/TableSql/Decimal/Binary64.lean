/-!
# Numbers with 53 binary digits

* `Binary64` — the finite numbers of the 64-bit binary format without their sign, as an exact
  significand and exponent.
* `Binary64.round?` — the nearest such number to a fraction; a tie goes to the even significand.
* `Binary64.mul?`, `Binary64.div?` — rounded product and quotient.
* `Binary64.ofDecimal?` — reads a significand with a power of ten. The significand, the power and
  their product are each rounded, so the last digit of a long number may be off by one.

Everything is computed in whole numbers; `none` stands for a number that is too large.
-/

set_option autoImplicit false

namespace TableSql

/-- The number `significand * 2 ^ exponent`. -/
structure Binary64 where
  significand : Nat
  exponent : Int
  deriving DecidableEq, Repr

namespace Binary64

/-- The smallest exponent of the format. -/
def minExponent : Int := -1074

/-- The largest exponent of the format, for a significand of 53 digits. -/
def maxExponent : Int := 971

/-- `num / den * 2 ^ (-exponent)` as a fraction of whole numbers. -/
def scaledFraction (num den : Nat) (exponent : Int) : Nat × Nat :=
  if 0 ≤ exponent then (num, den * Nat.pow 2 exponent.toNat)
  else (num * Nat.pow 2 (-exponent).toNat, den)

/-- The nearest whole number to a fraction; a tie goes to the even one. -/
def nearest (num den : Nat) : Nat :=
  let floor := num / den
  let twice := 2 * (num % den)
  if twice > den || (twice == den && floor % 2 == 1) then floor + 1 else floor

/-- The nearest number of the format to a fraction. -/
def round? (num den : Nat) : Option Binary64 :=
  if num = 0 then some ⟨0, minExponent⟩
  else
    let guess : Int := (num.log2 : Int) - (den.log2 : Int) - 52
    let (n, d) := scaledFraction num den guess
    let exponent := max (if n / d < Nat.pow 2 52 then guess - 1 else guess) minExponent
    let (n, d) := scaledFraction num den exponent
    let significand := nearest n d
    let result : Binary64 :=
      if significand = Nat.pow 2 53 then ⟨Nat.pow 2 52, exponent + 1⟩ else ⟨significand, exponent⟩
    if result.exponent > maxExponent then none else some result

def fraction (x : Binary64) : Nat × Nat :=
  if 0 ≤ x.exponent then (x.significand * Nat.pow 2 x.exponent.toNat, 1)
  else (x.significand, Nat.pow 2 (-x.exponent).toNat)

/-- The rounded product. -/
def mul? (x y : Binary64) : Option Binary64 :=
  let (a, b) := x.fraction
  let (c, d) := y.fraction
  round? (a * c) (b * d)

/-- The rounded quotient. -/
def div? (x y : Binary64) : Option Binary64 :=
  let (a, b) := x.fraction
  let (c, d) := y.fraction
  round? (a * d) (b * c)

/-- The largest power of ten that the format reaches. -/
def maxPower : Nat := 308

/-- Divides by `10 ^ n`, by at most `10 ^ 308` at a time. -/
def divByPower? (x : Binary64) (n : Nat) : Option Binary64 :=
  if x.significand = 0 then some x
  else if h : n ≤ maxPower then (round? (Nat.pow 10 n) 1).bind x.div?
  else ((round? (Nat.pow 10 maxPower) 1).bind x.div?).bind fun y => y.divByPower? (n - maxPower)
termination_by n
decreasing_by simp only [maxPower] at h ⊢; omega

def mulByPower? (x : Binary64) (n : Nat) : Option Binary64 :=
  if x.significand = 0 then some x
  else if n ≤ maxPower then (round? (Nat.pow 10 n) 1).bind x.mul?
  else none

/-- The number read from `significand * 10 ^ power`. -/
def ofDecimal? (significand : Nat) (power : Int) : Option Binary64 :=
  (round? significand 1).bind fun x =>
    if 0 ≤ power then x.mulByPower? power.toNat else x.divByPower? (-power).toNat

end Binary64

end TableSql
