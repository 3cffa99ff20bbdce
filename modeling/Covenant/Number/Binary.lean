/-!
# Binary floating-point numbers

A number of an interchange format is its bits: a sign, a biased exponent and a fraction. Every
operation here works on the exact value that the bits stand for, an integer significand times a
power of two, so a law about it is a law of integers. Results are rounded to the nearest number
of the format, a tie to the one whose last bit is zero.
-/
namespace Covenant

/-- An interchange format, by the widths of its exponent and fraction. -/
structure FloatFormat where
  /-- Bits of the biased exponent. -/
  exponentBits : Nat
  /-- Bits of the fraction. -/
  fractionBits : Nat

namespace FloatFormat

/-- The format of 32 bits. -/
def single : FloatFormat := ⟨8, 23⟩

/-- The format of 64 bits. -/
def double : FloatFormat := ⟨11, 52⟩

variable (format : FloatFormat)

/-- All bits of a number: sign, exponent and fraction. -/
def width : Nat := 1 + format.exponentBits + format.fractionBits

/-- The largest biased exponent, which marks infinities and NaNs. -/
def specialExponent : Nat := Nat.pow 2 format.exponentBits - 1

/-- The power of two that is the unit of the smallest numbers. -/
def leastExponent : Int :=
  2 - (Nat.pow 2 (format.exponentBits - 1) : Int) - (format.fractionBits : Int)

/-- The bits of positive infinity, which follow those of the largest finite number. -/
def infinityBits : Nat := format.specialExponent * Nat.pow 2 format.fractionBits

end FloatFormat

/-- A number of an interchange format. -/
structure Binary (format : FloatFormat) where
  /-- Sign, exponent and fraction, from the highest bit down. -/
  bits : BitVec format.width

/-- What the bits of a number stand for. -/
inductive FloatValue
  /-- No number. -/
  | nan
  /-- A value beyond every finite one. -/
  | infinite (negative : Bool)
  /-- The significand times the power of two; a zero keeps its sign. -/
  | finite (negative : Bool) (significand : Nat) (exponent : Int)

namespace Binary

variable {format : FloatFormat}

/-- The number of a sign and the bits below it. -/
def ofParts (negative : Bool) (magnitude : Nat) : Binary format :=
  ⟨.ofNat _ ((if negative then Nat.pow 2 (format.width - 1) else 0) + magnitude)⟩

/-- Whether the sign bit is set. -/
def isNegative (x : Binary format) : Bool := x.bits.msb

/-- The bits below the sign. -/
def magnitude (x : Binary format) : Nat := x.bits.toNat % Nat.pow 2 (format.width - 1)

/-- The biased exponent. -/
def exponentField (x : Binary format) : Nat := x.magnitude / Nat.pow 2 format.fractionBits

/-- The fraction. -/
def fraction (x : Binary format) : Nat := x.magnitude % Nat.pow 2 format.fractionBits

/-- Whether the bits stand for no number. -/
def isNaN (x : Binary format) : Bool := format.infinityBits < x.magnitude

/-- Whether the bits stand for an infinity. -/
def isInfinite (x : Binary format) : Bool := x.magnitude == format.infinityBits

/-- Whether the bits stand for a finite value. -/
def isFinite (x : Binary format) : Bool := x.magnitude < format.infinityBits

/-- The significand, with the leading bit that normal numbers leave out. -/
def significand (x : Binary format) : Nat :=
  if x.exponentField = 0 then x.fraction else Nat.pow 2 format.fractionBits + x.fraction

/-- The power of two that the significand counts. -/
def exponent (x : Binary format) : Int := format.leastExponent + ((x.exponentField - 1 : Nat) : Int)

/-- What the bits stand for. -/
def value (x : Binary format) : FloatValue :=
  if x.isNaN then .nan
  else if x.isInfinite then .infinite x.isNegative
  else .finite x.isNegative x.significand x.exponent

/-- Positive zero. -/
def zero : Binary format := ofParts false 0

instance : Inhabited (Binary format) := ⟨zero⟩

/-- The number with the other sign, a NaN included. -/
def neg (x : Binary format) : Binary format := ofParts (!x.isNegative) x.magnitude

/-- The number without its sign. -/
def abs (x : Binary format) : Binary format := ofParts false x.magnitude

/-- The magnitude with its sign, so that both zeros have one key and keys ascend with values. -/
def key (x : Binary format) : Int := if x.isNegative then -(x.magnitude : Int) else x.magnitude

/-- Numeric equality: the zeros are equal and a NaN equals nothing. -/
def equal (x y : Binary format) : Bool := !x.isNaN && !y.isNaN && x.key == y.key

/-- Numeric order: a NaN is below nothing and above nothing. -/
def less (x y : Binary format) : Bool := !x.isNaN && !y.isNaN && x.key < y.key

instance : BEq (Binary format) := ⟨equal⟩
instance : LT (Binary format) := ⟨fun x y => x.less y = true⟩
instance : LE (Binary format) := ⟨fun x y => (x.less y || x.equal y) = true⟩
instance (x y : Binary format) : Decidable (x < y) := inferInstanceAs (Decidable (_ = true))
instance (x y : Binary format) : Decidable (x ≤ y) := inferInstanceAs (Decidable (_ = true))

/-- The integer nearest to a quotient, a tie going to the even one. -/
def roundQuotient (numerator denominator : Nat) : Nat :=
  let quotient := numerator / denominator
  let twice := 2 * (numerator % denominator)
  if twice < denominator then quotient
  else if twice = denominator then quotient + quotient % 2
  else quotient + 1

/-- The exponent at which a positive quotient has as many bits as the format keeps, though none
below the least exponent. -/
def scaleOf (format : FloatFormat) (numerator denominator : Nat) : Int :=
  let estimate : Int := (numerator.log2 : Int) - denominator.log2
  let below := if 0 ≤ estimate then numerator < denominator * Nat.pow 2 estimate.toNat
    else numerator * Nat.pow 2 (-estimate).toNat < denominator
  max ((if below then estimate - 1 else estimate) - format.fractionBits) format.leastExponent

/-- The number nearest to a quotient with a sign. A quotient past the largest finite number
rounds to infinity, and a significand that rounds up to one bit more carries into the
exponent by itself. -/
def ofQuotient (negative : Bool) (numerator denominator : Nat) : Binary format :=
  if numerator = 0 then ofParts negative 0
  else
    let scale := scaleOf format numerator denominator
    let rounded :=
      if 0 ≤ scale then roundQuotient numerator (denominator * Nat.pow 2 scale.toNat)
      else roundQuotient (numerator * Nat.pow 2 (-scale).toNat) denominator
    let bits :=
      (scale - format.leastExponent).toNat * Nat.pow 2 format.fractionBits + rounded
    ofParts negative (min bits format.infinityBits)

/-- The number nearest to an integer. -/
def ofInt (i : Int) : Binary format := ofQuotient (i < 0) i.natAbs 1

/-- The number nearest to a significand times a power of two. -/
def ofScaled (negative : Bool) (significand : Nat) (exponent : Int) : Binary format :=
  ofQuotient negative (significand * Nat.pow 2 exponent.toNat) (Nat.pow 2 (-exponent).toNat)

/-- The number of another format nearest to a number; a NaN keeps its sign. -/
def convert {target : FloatFormat} (x : Binary format) : Binary target :=
  match x.value with
  | .nan => ofParts x.isNegative (target.infinityBits + Nat.pow 2 (target.fractionBits - 1))
  | .infinite negative => ofParts negative target.infinityBits
  | .finite negative significand exponent => ofScaled negative significand exponent

/-- The value without its part below one. -/
def truncate (negative : Bool) (significand : Nat) (exponent : Int) : Int :=
  let size := significand * Nat.pow 2 exponent.toNat / Nat.pow 2 (-exponent).toNat
  if negative then -size else size

end Binary

/-- Numbers of 64 bits. -/
abbrev Double := Binary .double

/-- Numbers of 32 bits. -/
abbrev Single := Binary .single

end Covenant
