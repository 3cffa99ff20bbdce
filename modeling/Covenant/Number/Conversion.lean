import Covenant.Capability
import Covenant.Number.Complex

/-!
# Conversions between numbers

An integer of any width converts to 64 bits by keeping its low bits, and to a number of the
double format by rounding. A floating-point number converts to an integer by dropping its part
below one and stopping at the bounds of 64 bits, and to the double format exactly. Every real
number converts to the complex number on the real axis.
-/
namespace Covenant

/-- Values that convert to a number of the double format. -/
class FloatConvertible (α : Type u) where
  /-- The number. -/
  toDouble : α → Double

/-- Values that convert to a complex number. -/
class ComplexConvertible (α : Type u) where
  /-- The complex number. -/
  toComplex : α → Complex

/-- A type of machine integers: its width, and whether it holds negative ones. -/
structure IntegerType where
  /-- Number of bits. -/
  width : Nat
  /-- Whether the highest bit counts negatively. -/
  signed : Bool

namespace IntegerType

/-- The least integer of the type. -/
def least (type : IntegerType) : Int :=
  if type.signed then -(Nat.pow 2 (type.width - 1) : Int) else 0

/-- The greatest integer of the type. -/
def greatest (type : IntegerType) : Int :=
  if type.signed then (Nat.pow 2 (type.width - 1) : Int) - 1 else (Nat.pow 2 type.width : Int) - 1

/-- Whether an integer is one of the type. -/
def Holds (type : IntegerType) (i : Int) : Prop := type.least ≤ i ∧ i ≤ type.greatest

instance (type : IntegerType) (i : Int) : Decidable (type.Holds i) :=
  inferInstanceAs (Decidable (_ ∧ _))

end IntegerType

/-- An integer of a machine type. -/
structure MachineInt (type : IntegerType) where
  /-- The integer. -/
  value : Int
  /-- It is one of the type. -/
  held : type.Holds value

namespace MachineInt

variable {type : IntegerType}

/-- The machine integer of an integer, if the type holds it. -/
def ofInt? (type : IntegerType) (i : Int) : Option (MachineInt type) :=
  if held : type.Holds i then some ⟨i, held⟩ else none

/-- The integer of 64 bits with the same low 64 bits. -/
def toInt64 (i : MachineInt type) : Int64 := Int64.ofInt i.value

/-- The nearest number of the double format. -/
def toDouble (i : MachineInt type) : Double := Binary.ofInt i.value

end MachineInt

/-- The nearest integer of 64 bits. -/
def saturate (i : Int) : Int64 :=
  if i < Int64.minValue.toInt then Int64.minValue
  else if Int64.maxValue.toInt < i then Int64.maxValue
  else Int64.ofInt i

namespace Binary

variable {format : FloatFormat}

/-- The part of a number from one upwards, as near as 64 bits come to it. A NaN gives zero. -/
def toInt64 (x : Binary format) : Int64 :=
  match x.value with
  | .nan => 0
  | .infinite negative => if negative then Int64.minValue else Int64.maxValue
  | .finite negative significand exponent => saturate (truncate negative significand exponent)

end Binary

/-- One for true and zero for false. -/
def bitOfBool (b : Bool) : Int := if b then 1 else 0

instance : IntConvertible (MachineInt type) := ⟨MachineInt.toInt64⟩
instance : FloatConvertible (MachineInt type) := ⟨MachineInt.toDouble⟩
instance : ComplexConvertible (MachineInt type) := ⟨fun i => .ofReal i.toDouble⟩

instance : IntConvertible (Binary format) := ⟨Binary.toInt64⟩
instance : FloatConvertible Double := ⟨id⟩
instance : FloatConvertible Single := ⟨Binary.convert⟩
instance : ComplexConvertible Double := ⟨.ofReal⟩
instance : ComplexConvertible Single := ⟨fun x => .ofReal x.convert⟩

instance : IntConvertible Bool := ⟨fun b => Int64.ofInt (bitOfBool b)⟩
instance : FloatConvertible Bool := ⟨fun b => Binary.ofInt (bitOfBool b)⟩
instance : ComplexConvertible Bool := ⟨fun b => .ofReal (Binary.ofInt (bitOfBool b))⟩

instance : ComplexConvertible Complex := ⟨id⟩
instance : ComplexConvertible (Double × Double) := ⟨fun parts => ⟨parts.1, parts.2⟩⟩

end Covenant
