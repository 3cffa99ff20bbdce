import Covenant.Number.Binary
import Mathlib.Order.Monotone.Basic
import Mathlib.Tactic.Ring

/-!
# Magnitudes

The bits of a number are its sign and its magnitude (`Binary.toNat_bits`). The magnitude counts the
numbers from zero on, and `FloatFormat.units` says how many of the smallest positive number each of
them is worth: from one magnitude to the next it grows by a power of two (`FloatFormat.units_succ`),
whether or not the exponent changes on the way. So magnitudes and values ascend together, and
between a number and the next one there is a middle, `FloatFormat.middle`, counted in halves.
-/
namespace Covenant

namespace FloatFormat

variable (format : FloatFormat)

/-- The distance from a magnitude to the next, in smallest positive numbers. -/
def spacing (magnitude : Nat) : Nat := 2 ^ (magnitude / 2 ^ format.fractionBits - 1)

/-- How many of the smallest positive number a magnitude is worth. -/
def units (magnitude : Nat) : Nat :=
  (if magnitude / 2 ^ format.fractionBits = 0 then magnitude % 2 ^ format.fractionBits
    else 2 ^ format.fractionBits + magnitude % 2 ^ format.fractionBits) * format.spacing magnitude

/-- Twice the middle between a magnitude and the next. -/
def middle (magnitude : Nat) : Nat := format.units magnitude + format.units (magnitude + 1)

/-- The next magnitude has the next fraction, or the next exponent and no fraction. -/
theorem succ_cases (magnitude : Nat) :
    let size := 2 ^ format.fractionBits
    (magnitude + 1) / size = magnitude / size ∧ (magnitude + 1) % size = magnitude % size + 1 ∨
      (magnitude + 1) / size = magnitude / size + 1 ∧ (magnitude + 1) % size = 0 ∧
        magnitude % size + 1 = size := by
  intro size
  have positive : 0 < size := Nat.two_pow_pos _
  have bound : magnitude % size < size := Nat.mod_lt _ positive
  have parts : size * (magnitude / size) + magnitude % size = magnitude :=
    Nat.div_add_mod magnitude size
  rcases Nat.lt_or_eq_of_le (Nat.succ_le_of_lt bound) with below | full
  · exact .inl ((Nat.div_mod_unique positive).mpr ⟨by omega, below⟩)
  · obtain ⟨quotient, rest⟩ := (Nat.div_mod_unique positive (a := magnitude + 1)
      (d := magnitude / size + 1) (c := 0)).mpr ⟨by rw [Nat.mul_add]; omega, positive⟩
    exact .inr ⟨quotient, rest, full⟩

/-- The spacing doubles where an exponent begins, except at the first one. -/
theorem spacing_succ (magnitude : Nat) : format.spacing (magnitude + 1) =
    if (magnitude + 1) % 2 ^ format.fractionBits = 0 ∧
        1 < (magnitude + 1) / 2 ^ format.fractionBits then
      2 * format.spacing magnitude
    else format.spacing magnitude := by
  unfold spacing
  rcases format.succ_cases magnitude with ⟨same, next⟩ | ⟨next, none, _⟩
  · rw [same, next, if_neg fun starts => Nat.succ_ne_zero _ starts.1]
  · rw [next, none, Nat.add_sub_cancel]
    cases magnitude / 2 ^ format.fractionBits with
    | zero => simp
    | succ exponent =>
      rw [if_pos ⟨rfl, by omega⟩, Nat.add_sub_cancel]
      exact Nat.pow_succ'

/-- From one magnitude to the next the worth grows by the spacing. -/
theorem units_succ (magnitude : Nat) :
    format.units (magnitude + 1) = format.units magnitude + format.spacing magnitude := by
  unfold units spacing
  rcases format.succ_cases magnitude with ⟨same, next⟩ | ⟨next, none, full⟩
  · rw [same, next]
    split <;> ring
  · rw [next, none, if_neg (Nat.succ_ne_zero _), Nat.add_zero, Nat.add_sub_cancel]
    generalize magnitude % 2 ^ format.fractionBits = fraction at full ⊢
    rw [← full]
    cases magnitude / (fraction + 1) with
    | zero => simp
    | succ fewer =>
      rw [if_neg (Nat.succ_ne_zero _), Nat.add_sub_cancel, Nat.pow_succ]
      ring

variable {format}

/-- A larger magnitude is worth more. -/
theorem units_strictMono : StrictMono format.units :=
  strictMono_nat_of_lt_succ fun magnitude => by
    rw [units_succ]
    exact Nat.lt_add_of_pos_right (Nat.two_pow_pos _)

/-- A larger magnitude has a larger middle to the next. -/
theorem middle_strictMono : StrictMono format.middle := fun _ _ below =>
  Nat.add_lt_add (units_strictMono below) (units_strictMono (Nat.succ_lt_succ below))

/-- A sign doubles the bits. -/
theorem two_pow_width : 2 ^ format.width = 2 * 2 ^ (format.width - 1) := by
  have width : format.width = format.width - 1 + 1 := by
    unfold width
    omega
  calc 2 ^ format.width = 2 ^ (format.width - 1 + 1) := congrArg (2 ^ ·) width
    _ = 2 * 2 ^ (format.width - 1) := Nat.pow_succ'

end FloatFormat

namespace Binary

variable {format : FloatFormat} {x y : Binary format}

/-- The magnitude is worth as many spacings as the significand says. -/
theorem units_magnitude (x : Binary format) :
    format.units x.magnitude = x.significand * format.spacing x.magnitude := rfl

/-! ## Signs and magnitudes -/

/-- A number is negative if its bits reach the sign. -/
theorem isNegative_eq (x : Binary format) :
    x.isNegative = decide (2 ^ (format.width - 1) ≤ x.bits.toNat) := BitVec.msb_eq_decide x.bits

/-- The bits are the sign and the magnitude. -/
theorem toNat_bits (x : Binary format) : x.bits.toNat =
    (if x.isNegative then 2 ^ (format.width - 1) else 0) + x.magnitude := by
  have bound := x.bits.isLt
  rw [FloatFormat.two_pow_width] at bound
  change _ = _ + x.bits.toNat % 2 ^ (format.width - 1)
  rw [isNegative_eq]
  by_cases negative : 2 ^ (format.width - 1) ≤ x.bits.toNat
  · rw [if_pos (decide_eq_true negative), Nat.mod_eq_sub_mod negative, Nat.mod_eq_of_lt (by omega)]
    omega
  · rw [if_neg (by simpa using negative), Nat.mod_eq_of_lt (Nat.not_le.mp negative), Nat.zero_add]

/-- A magnitude has the bits below the sign. -/
theorem magnitude_lt (x : Binary format) : x.magnitude < 2 ^ (format.width - 1) :=
  Nat.mod_lt _ (Nat.two_pow_pos _)

/-- The sign and the magnitude determine the bits. -/
theorem bits_eq (sign : x.isNegative = y.isNegative) (same : x.magnitude = y.magnitude) :
    x.bits = y.bits := by
  apply BitVec.eq_of_toNat_eq
  rw [toNat_bits, toNat_bits, sign, same]

section OfParts

variable (negative : Bool) {magnitude : Nat} (bound : magnitude < 2 ^ (format.width - 1))
include bound

/-- The bits of a number are those of the sign and the magnitude that it is made of. -/
theorem toNat_ofParts : (ofParts negative magnitude : Binary format).bits.toNat =
    (if negative then 2 ^ (format.width - 1) else 0) + magnitude := by
  have total : (if negative then 2 ^ (format.width - 1) else 0) + magnitude < 2 ^ format.width := by
    rw [FloatFormat.two_pow_width]
    split <;> omega
  exact Nat.mod_eq_of_lt total

/-- A number has the magnitude that it is made of. -/
theorem magnitude_ofParts : (ofParts negative magnitude : Binary format).magnitude = magnitude := by
  change (ofParts negative magnitude : Binary format).bits.toNat % 2 ^ (format.width - 1) = _
  rw [toNat_ofParts negative bound]
  cases negative with
  | false => rw [if_neg Bool.false_ne_true, Nat.zero_add, Nat.mod_eq_of_lt bound]
  | true => rw [if_pos rfl, Nat.add_mod_left, Nat.mod_eq_of_lt bound]

/-- A number has the sign that it is made of. -/
theorem isNegative_ofParts :
    (ofParts negative magnitude : Binary format).isNegative = negative := by
  rw [isNegative_eq, toNat_ofParts negative bound]
  cases negative with
  | false => simpa using bound
  | true => simp

end OfParts

/-- A number without its sign has the same magnitude. -/
@[simp]
theorem magnitude_abs (x : Binary format) : x.abs.magnitude = x.magnitude :=
  magnitude_ofParts false x.magnitude_lt

/-- A number without its sign is not negative. -/
@[simp]
theorem isNegative_abs (x : Binary format) : x.abs.isNegative = false :=
  isNegative_ofParts false x.magnitude_lt

end Binary

end Covenant
