import Covenant.Json.Basic

/-!
# Numerals

A numeral is a number as it is written. An integer of 64 bits is read exactly. Every other
numeral becomes a number of the double format in two roundings: its leading digits, as many as
64 bits hold, form an integer, and that is multiplied or divided by a power of ten. Digits past
these only shift the power. A numeral too large for the format has no value.
-/
namespace Covenant.Json

/-- A number as it is written. The digit lists are never empty where they are present. -/
structure Numeral where
  /-- Whether a minus sign comes first. -/
  negative : Bool
  /-- Digits before the point. -/
  whole : List Nat
  /-- Digits after the point. -/
  fraction : List Nat
  /-- Whether the exponent is negative, and its digits. -/
  exponent : Option (Bool × List Nat)

namespace Numeral

/-- Append digits to an integer as long as 64 bits hold it, and count them. -/
def gather (start : Nat) : List Nat → Nat × Nat
  | [] => (start, 0)
  | digit :: rest =>
    let next := start * 10 + digit
    if next < Nat.pow 2 64 then
      let (result, count) := gather next rest
      (result, count + 1)
    else (start, 0)

/-- The integer that digits write. -/
def natOfDigits (digits : List Nat) : Nat := digits.foldl (fun n digit => n * 10 + digit) 0

/-- The largest power of ten below every infinite number. -/
def topPower : Nat := 308

/-- A power of ten as a number. -/
def powerOfTen (n : Nat) : Double := Binary.ofInt (Nat.pow 10 n)

/-- The product of two positive finite numbers. -/
def times (x y : Double) : Double :=
  .ofScaled false (x.significand * y.significand) (x.exponent + y.exponent)

/-- The quotient of two positive finite numbers. -/
def quotient (x y : Double) : Double :=
  let scale := x.exponent - y.exponent
  .ofQuotient false (x.significand * Nat.pow 2 scale.toNat)
    (y.significand * Nat.pow 2 (-scale).toNat)

/-- Divide by a power of ten, by its largest factors first. Three divisions bring every integer
of 64 bits to zero. -/
def divideByPower (x : Double) (power : Nat) : Nat → Double
  | 0 => .zero
  | steps + 1 =>
    if power ≤ topPower then quotient x (powerOfTen power)
    else divideByPower (quotient x (powerOfTen topPower)) (power - topPower) steps

/-- A positive number times a power of ten, unless it is infinite. -/
def shift? (x : Double) (power : Int) : Option Double :=
  if x.magnitude = 0 then some x
  else if power < 0 then some (divideByPower x power.natAbs 3)
  else if power.natAbs ≤ topPower then
    let product := times x (powerOfTen power.natAbs)
    if product.isInfinite then none else some product
  else none

/-- The largest exponent that is read digit by digit. -/
def exponentLimit : Nat := Nat.pow 2 31 - 1

/-- The number of the double format that a numeral writes. -/
def real? (numeral : Numeral) : Option Double :=
  let (whole, wholeKept) := gather 0 numeral.whole
  let (significand, fractionKept) := gather whole numeral.fraction
  let shiftBy : Int := (numeral.whole.length - wholeKept : Nat) - (fractionKept : Int)
  let magnitude? : Option Double :=
    match numeral.exponent with
    | none => shift? (Binary.ofInt significand) shiftBy
    | some (negative, digits) =>
      let size := natOfDigits digits
      if size ≤ exponentLimit then
        shift? (Binary.ofInt significand) (shiftBy + if negative then -(size : Int) else size)
      else if negative || significand == 0 then some .zero
      else none
  magnitude?.map fun x => if numeral.negative then x.neg else x

/-- The integer of 64 bits that a numeral without fraction and exponent writes. -/
def integer? (numeral : Numeral) : Option Int :=
  let size := natOfDigits numeral.whole
  if !numeral.fraction.isEmpty || numeral.exponent.isSome then none
  else if numeral.negative then
    if 0 < size ∧ size ≤ Nat.pow 2 63 then some (-size) else none
  else if size < Nat.pow 2 64 then some size
  else none

/-- The number that a numeral writes. -/
def number? (numeral : Numeral) : Option Number :=
  match numeral.integer? with
  | some i => some (.integer i)
  | none => numeral.real?.map .real

end Numeral

/-- A number in the double format. -/
def Number.toDouble : Number → Double
  | .integer i => Binary.ofInt i
  | .real x => x

end Covenant.Json
