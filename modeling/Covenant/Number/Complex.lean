import Covenant.Number.Decimal
import Covenant.Number.Hypotenuse

/-!
# Complex numbers

A complex number has two parts of the double format. It is equal to another when both parts
are numerically equal, so it differs from itself when a part is a NaN. Its text leaves the real
part out when that is positive zero.
-/
namespace Covenant

/-- A number in a text for readers: always with a point and never with an exponent, a NaN
without its sign. -/
def Binary.display {format : FloatFormat} (x : Binary format) : List Char :=
  if x.isNaN then ['n', 'a', 'n']
  else
    (if x.isNegative then ['-'] else []) ++
      if x.isInfinite then ['i', 'n', 'f'] else (x.shortest .upward).positional

/-- A complex number. -/
structure Complex where
  /-- Real part. -/
  re : Double
  /-- Imaginary part. -/
  im : Double

namespace Complex

/-- The complex number of a real one. -/
def ofReal (re : Double) : Complex := ⟨re, .zero⟩

instance : Inhabited Complex := ⟨ofReal .zero⟩

/-- The length of the number as a vector. -/
def norm (z : Complex) : Double := hypotenuse z.re z.im

/-- The conjugate: the imaginary part changes its sign bit. -/
def conj (z : Complex) : Complex := ⟨z.re, z.im.neg⟩

/-- Both parts are numerically equal. -/
def equal (z w : Complex) : Bool := z.re == w.re && z.im == w.im

instance : BEq Complex := ⟨equal⟩

/-- The imaginary part with its unit when the real part is positive zero, and else both parts
in parentheses, joined by the sign of the imaginary part. -/
def display (z : Complex) : String :=
  String.ofList <|
    if z.re.magnitude = 0 ∧ ¬z.re.isNegative then z.im.display ++ ['j']
    else
      ['('] ++ z.re.display ++ [if z.im.isNegative then '-' else '+'] ++ z.im.abs.display ++
        ['j', ')']

end Complex

end Covenant
