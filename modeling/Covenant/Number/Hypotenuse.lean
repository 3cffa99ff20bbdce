import Covenant.Number.Binary

/-!
# Length of a hypotenuse

The square root of a sum of two squares, without overflow or underflow on the way. The root of
the rounded sum is corrected once by its own error, which is computed from differences that
lose nothing. An infinite side makes the hypotenuse infinite even beside a NaN, unless that NaN
signals.
-/
namespace Covenant

namespace Hypotenuse

/-- The corrected root for sides in descending order whose squares neither overflow nor vanish. -/
def root (long short : Float) : Float :=
  let estimate := (long * long + short * short).sqrt
  if estimate ≤ 2 * short then
    let delta := estimate - short
    let first := long * (2 * delta - long)
    let second := (delta - 2 * (long - short)) * delta
    estimate - (first + second) / (2 * estimate)
  else
    let delta := estimate - long
    let first := 2 * delta * (long - 2 * short)
    let second := (4 * delta - short) * short + delta * delta
    estimate - (first + second) / (2 * estimate)

/-- Sides above this have squares that may overflow: two to the power 511. -/
def large : Float := (1 : Float).scaleB 511

/-- Sides below this have squares that may vanish: two to the power minus 459. -/
def tiny : Float := (1 : Float).scaleB (-459)

/-- The hypotenuse of finite sides in descending order. A side shorter than the other by 54
binary places leaves it unchanged but for rounding. -/
def ofDescending (long short : Float) : Float :=
  if large < long then
    if short ≤ long.scaleB (-54) then long + short
    else (root (long.scaleB (-600)) (short.scaleB (-600))).scaleB 600
  else if short < tiny then
    if short.scaleB 54 ≤ long then long + short
    else (root (long.scaleB 600) (short.scaleB 600)).scaleB (-600)
  else if short ≤ long.scaleB (-54) then long + short
  else root long short

end Hypotenuse

/-- A NaN whose fraction lacks its highest bit signals. -/
def Binary.isSignalling {format : FloatFormat} (x : Binary format) : Bool :=
  x.isNaN && x.fraction < Nat.pow 2 (format.fractionBits - 1)

/-- The hypotenuse over two sides of any sign. -/
def hypotenuse (x y : Double) : Double :=
  if (x.isInfinite && !y.isSignalling) || (y.isInfinite && !x.isSignalling) then
    .ofParts false FloatFormat.double.infinityBits
  else if x.isNaN || y.isNaN then .ofParts false (FloatFormat.double.infinityBits + 1)
  else
    let (long, short) := if x.abs.less y.abs then (y.abs, x.abs) else (x.abs, y.abs)
    let length := Hypotenuse.ofDescending
      (Float.ofBits (.ofNat long.bits.toNat)) (Float.ofBits (.ofNat short.bits.toNat))
    ⟨.ofNat _ length.toBits.toNat⟩

end Covenant
