import Covenant.Number.Binary

/-!
# Decimals that read back

A decimal here is an integer times a power of ten. `Binary.shortest` picks the decimal that
stands for a finite number: of all decimals that round to it, the one on the coarsest grid of
powers of ten, which is the one with the fewest digits; among several on that grid the nearest.
The two forms in which a decimal is written, with a point and with an exponent, are functions of
the decimal alone.
-/
namespace Covenant

/-- An integer times a power of ten. -/
structure Decimal where
  /-- The integer. -/
  digits : Nat
  /-- The power of ten it counts. -/
  exponent : Int

/-- Which of two equally near decimals stands for a number. -/
inductive Tie
  /-- The larger one. -/
  | upward
  /-- The one with the even last digit. -/
  | even

/-- The reals that round to a finite number, as multiples of a quarter of its unit: from `low`
to `high`, with the ends exactly when the significand is even. -/
structure RoundingInterval where
  /-- Lower end. -/
  low : Nat
  /-- Four times the significand. -/
  middle : Nat
  /-- Upper end. -/
  high : Nat
  /-- Whether the ends round to the number too. -/
  closed : Bool
  /-- The power of two that is a quarter of the unit. -/
  exponent : Int

namespace RoundingInterval

/-- The interval of a significand and exponent. Below a power of two the neighbour is nearer,
unless the numbers there have the same unit. -/
def ofParts (significand : Nat) (exponent : Int) (nearerBelow : Bool) : RoundingInterval where
  low := 4 * significand - if nearerBelow then 1 else 2
  middle := 4 * significand
  high := 4 * significand + 2
  closed := significand % 2 == 0
  exponent := exponent - 2

/-- Factors by which a multiple of the quarter unit and a multiple of a power of ten are
compared as integers: first that of the quarter unit. -/
def factors (interval : RoundingInterval) (power : Int) : Nat × Nat :=
  (Nat.pow 2 interval.exponent.toNat * Nat.pow 10 (-power).toNat,
    Nat.pow 10 power.toNat * Nat.pow 2 (-interval.exponent).toNat)

/-- Whether a decimal lies in the interval. -/
def holds (interval : RoundingInterval) (decimal : Decimal) : Bool :=
  let (unit, ten) := interval.factors decimal.exponent
  let point := decimal.digits * ten
  if interval.closed then interval.low * unit ≤ point && point ≤ interval.high * unit
  else interval.low * unit < point && point < interval.high * unit

/-- The decimal of a power of ten that is nearest to the middle among those in the interval. -/
def onGrid? (interval : RoundingInterval) (tie : Tie) (power : Int) : Option Decimal :=
  let (unit, ten) := interval.factors power
  let below : Decimal := ⟨interval.middle * unit / ten, power⟩
  let above : Decimal := ⟨below.digits + 1, power⟩
  match interval.holds below, interval.holds above with
  | false, false => none
  | true, false => some below
  | false, true => some above
  | true, true =>
    let twice := 2 * (interval.middle * unit % ten)
    if twice < ten then some below
    else if ten < twice then some above
    else match tie with
      | .upward => some above
      | .even => some (if below.digits % 2 = 0 then below else above)

/-- The middle itself as a decimal. -/
def exact (interval : RoundingInterval) : Decimal :=
  if 0 ≤ interval.exponent then ⟨interval.middle * Nat.pow 2 interval.exponent.toNat, 0⟩
  else ⟨interval.middle * Nat.pow 5 (-interval.exponent).toNat, interval.exponent⟩

/-- Go down the powers of ten until one has a decimal in the interval. -/
def coarsestFrom (interval : RoundingInterval) (tie : Tie) : Nat → Int → Decimal
  | 0, _ => interval.exact
  | steps + 1, power =>
    match interval.onGrid? tie power with
    | some decimal => decimal
    | none => interval.coarsestFrom tie steps (power - 1)

/-- A power of ten above every number of the interval. -/
def topPower (interval : RoundingInterval) : Int :=
  ((interval.middle.log2 : Int) + interval.exponent + 1) * 30103 / 100000 + 2

/-- The decimal of fewest digits in the interval. Seventeen digits and the powers above the
first of them are always enough, so the search is short. -/
def shortest (interval : RoundingInterval) (tie : Tie) : Decimal :=
  interval.coarsestFrom tie 24 interval.topPower

end RoundingInterval

namespace Binary

variable {format : FloatFormat}

/-- The reals that round to a number. -/
def roundingInterval (x : Binary format) : RoundingInterval :=
  .ofParts x.significand x.exponent (x.fraction == 0 && 1 < x.exponentField)

/-- The decimal that stands for the magnitude of a finite number. -/
def shortest (x : Binary format) (tie : Tie) : Decimal :=
  if x.magnitude = 0 then ⟨0, 0⟩ else x.roundingInterval.shortest tie

end Binary

namespace Decimal

/-- The digits of the integer. -/
def text (decimal : Decimal) : List Char := Nat.toDigits 10 decimal.digits

/-- The power of ten of the first digit. -/
def leadingExponent (decimal : Decimal) : Int := decimal.text.length + decimal.exponent - 1

/-- A decimal below one is written with a zero before the point, an integer without a point. -/
def positional (decimal : Decimal) : List Char :=
  let digits := decimal.text
  if 0 ≤ decimal.exponent then digits ++ List.replicate decimal.exponent.toNat '0'
  else
    let places := (-decimal.exponent).toNat
    if places < digits.length then
      digits.take (digits.length - places) ++ '.' :: digits.drop (digits.length - places)
    else ['0', '.'] ++ List.replicate (places - digits.length) '0' ++ digits

/-- One digit before the point, no point without digits after it, and an exponent with its
sign. -/
def scientific (decimal : Decimal) : List Char :=
  let fraction := decimal.text.drop 1
  let exponent := decimal.leadingExponent
  decimal.text.take 1 ++ (if fraction.isEmpty then [] else '.' :: fraction) ++
    ['e', if exponent < 0 then '-' else '+'] ++ Nat.toDigits 10 exponent.natAbs

end Decimal

end Covenant
