import Covenant.Number.Conversion
import Covenant.Proofs.Number.Widening
import Mathlib.Data.Rat.Floor
import Mathlib.Order.WithBot

/-!
# Truncation

A number becomes an integer of 64 bits by losing its part below one (`towardZero`) and stopping at
the bounds; a NaN becomes zero. So the integer depends on what the number stands for and on nothing
else of its bits (`Binary.toInt64_congr`), and conversion to a wider format may come first. The
order of numbers is kept, and the sign changes with that of the number as long as the bounds, which
are not symmetric, are not in the way (`Binary.toInt64_truncates`).
-/
namespace Covenant

/-! ## Towards zero -/

/-- An integer, or an infinity above or below all of them. -/
abbrev ExtendedInteger := WithBot (WithTop ℤ)

/-- A rational without its part below one. -/
def towardZero (quantity : ℚ) : ℤ := if 0 ≤ quantity then ⌊quantity⌋ else ⌈quantity⌉

/-- A rational without its part below one; infinities have none. -/
def truncated (quantity : ExtendedRational) : ExtendedInteger :=
  quantity.map (WithTop.map towardZero)

/-- An integer among the extended ones. -/
def extendedInteger (i : ℤ) : ExtendedInteger := (i : WithTop ℤ)

/-- The order of integers is that among the extended ones. -/
theorem extendedInteger_strictMono : StrictMono extendedInteger := fun _ _ below =>
  WithBot.coe_lt_coe.mpr (WithTop.coe_lt_coe.mpr below)

variable {quantity : ℚ}

/-- The sign goes through truncation. -/
theorem towardZero_neg (quantity : ℚ) : towardZero (-quantity) = -towardZero quantity := by
  unfold towardZero
  rcases lt_trichotomy quantity 0 with negative | zero | positive
  · rw [if_pos (neg_nonneg.mpr negative.le), if_neg negative.not_ge, Int.floor_neg]
  · rw [zero, neg_zero, if_pos le_rfl, Int.floor_zero, neg_zero]
  · rw [if_neg (neg_lt_zero.mpr positive).not_ge, if_pos positive.le, Int.ceil_neg]

/-- An integer has no part below one. -/
@[simp]
theorem towardZero_intCast (i : ℤ) : towardZero i = i := by
  unfold towardZero
  split
  · exact Int.floor_intCast i
  · exact Int.ceil_intCast i

/-- Truncation keeps the order. -/
theorem towardZero_mono : Monotone towardZero := by
  intro first second ordered
  unfold towardZero
  split
  · rename_i nonneg
    rw [if_pos (nonneg.trans ordered)]
    exact Int.floor_mono ordered
  · rename_i negative
    split
    · rename_i nonneg
      exact (Int.ceil_le.mpr (by simpa using (not_le.mp negative).le)).trans
        (Int.floor_nonneg.mpr nonneg)
    · exact Int.ceil_mono ordered

/-- Truncation keeps the order. -/
theorem truncated_mono : Monotone truncated := towardZero_mono.withTop_map.withBot_map

/-- Truncation stays within integer bounds. -/
theorem abs_towardZero_lt {bound : ℤ} (inside : |quantity| < bound) :
    |towardZero quantity| < bound := by
  obtain ⟨low, high⟩ := abs_lt.mp inside
  rw [abs_lt]
  unfold towardZero
  split
  · rename_i nonneg
    refine ⟨?_, Int.floor_lt.mpr high⟩
    have positive : (0 : ℚ) < bound := nonneg.trans_lt high
    exact (neg_lt_zero.mpr (Int.cast_pos.mp positive)).trans_le (Int.floor_nonneg.mpr nonneg)
  · rename_i negative
    refine ⟨Int.lt_ceil.mpr (by rwa [Int.cast_neg]), ?_⟩
    have positive : (0 : ℚ) < bound := (abs_nonneg quantity).trans_lt inside
    exact (Int.ceil_le.mpr (by simpa using (not_le.mp negative).le)).trans_lt
      (Int.cast_pos.mp positive)

/-! ## Integers of 64 bits -/

/-- An integer past the bounds of 64 bits becomes the bound. -/
theorem toInt_saturate (i : ℤ) : (saturate i).toInt = max (-2 ^ 63) (min i (2 ^ 63 - 1)) := by
  unfold saturate
  rw [Int64.toInt_minValue, Int64.toInt_maxValue]
  split
  · rw [Int64.toInt_minValue]
    omega
  · split
    · rw [Int64.toInt_maxValue]
      omega
    · rw [Int64.toInt_ofInt_of_le (by omega) (by omega)]
      omega

namespace Binary

variable {format other : FloatFormat} {x : Binary format} {y : Binary other}

/-- A significand at a scale is truncated as the rational that it stands for. -/
theorem truncate_eq (negative : Bool) (significand : Nat) (exponent : ℤ) :
    truncate negative significand exponent =
      towardZero ((if negative then -1 else 1) * significand * 2 ^ exponent) := by
  have size : towardZero (significand * 2 ^ exponent) =
      (significand * 2 ^ exponent.toNat / 2 ^ (-exponent).toNat : Nat) := by
    unfold towardZero
    rw [if_pos (by positivity), ← quotient_ofScaled, Rat.floor_natCast_div_natCast]
    rfl
  unfold truncate
  cases negative with
  | false =>
    rw [if_neg Bool.false_ne_true, if_neg Bool.false_ne_true, one_mul, size]
    rfl
  | true =>
    rw [if_pos rfl, if_pos rfl, neg_one_mul, neg_mul, towardZero_neg, size]
    rfl

/-- A NaN becomes zero. -/
theorem toInt64_of_isNaN (nan : x.isNaN = true) : x.toInt64 = 0 := by
  unfold toInt64
  rw [value_of_isNaN nan]

/-- A number becomes what it stands for, truncated and stopped at the bounds of 64 bits. -/
theorem toInt_toInt64 {value : ExtendedRational} (stands : x.extended? = some value) :
    extendedInteger x.toInt64.toInt =
      max (extendedInteger (-2 ^ 63))
        (min (truncated value) (extendedInteger (2 ^ 63 - 1))) := by
  unfold toInt64
  rcases x.isNaN_or_isInfinite_or_isFinite with nan | infinite | finite
  · rw [extended?_of_isNaN nan] at stands
    cases stands
  · rw [extended?_of_isInfinite infinite] at stands
    cases stands
    rw [value_of_isInfinite infinite]
    dsimp only
    cases x.isNegative with
    | false =>
      rw [if_neg Bool.false_ne_true, if_neg Bool.false_ne_true, Int64.toInt_maxValue]
      change _ = max _ (min ⊤ _)
      rw [top_inf_eq, ← extendedInteger_strictMono.monotone.map_max]
      rfl
    | true =>
      rw [if_pos rfl, if_pos rfl, Int64.toInt_minValue]
      change _ = max _ (min ⊥ _)
      rw [bot_inf_eq, max_bot_right]
  · rw [extended?_of_isFinite finite] at stands
    cases stands
    rw [value_of_isFinite finite]
    dsimp only
    rw [toInt_saturate, truncate_eq]
    change _ = max _ (min (extendedInteger (towardZero x.rational)) _)
    rw [← extendedInteger_strictMono.monotone.map_min,
      ← extendedInteger_strictMono.monotone.map_max]
    rfl

/-- What a number stands for determines its integer, whatever its format. -/
theorem toInt64_congr (same : x.extended? = y.extended?) : x.toInt64 = y.toInt64 := by
  cases stands : x.extended? with
  | none =>
    rw [toInt64_of_isNaN (extended?_eq_none_iff.mp stands),
      toInt64_of_isNaN (extended?_eq_none_iff.mp (same.symm.trans stands))]
  | some value =>
    have equal := (toInt_toInt64 stands).trans (toInt_toInt64 (same.symm.trans stands)).symm
    exact Int64.toInt_inj.mp (extendedInteger_strictMono.injective equal)

/-- A number that stands for no more than another one has no larger integer. -/
theorem toInt64_mono {value value' : ExtendedRational} (stands : x.extended? = some value)
    (stands' : y.extended? = some value') (ordered : value ≤ value') :
    x.toInt64.toInt ≤ y.toInt64.toInt := by
  rw [← extendedInteger_strictMono.le_iff_le, toInt_toInt64 stands, toInt_toInt64 stands']
  exact max_le_max le_rfl (min_le_min (truncated_mono ordered) le_rfl)

/-- A rational that is within the bounds of 64 bits when it is truncated is not stopped there. -/
theorem toInt_toInt64_of_mem {quantity : ℚ}
    (stands : x.extended? = some ((quantity : WithTop ℚ) : ExtendedRational))
    (low : -2 ^ 63 ≤ towardZero quantity) (high : towardZero quantity < 2 ^ 63) :
    x.toInt64.toInt = towardZero quantity := by
  apply extendedInteger_strictMono.injective
  rw [toInt_toInt64 stands]
  change max _ (min (extendedInteger (towardZero quantity)) _) = _
  rw [← extendedInteger_strictMono.monotone.map_min, ← extendedInteger_strictMono.monotone.map_max,
    min_eq_left (by omega), max_eq_right (by omega)]

/-- A finite number with the other sign becomes the opposite integer, unless it reaches the bounds
of 64 bits. -/
theorem toInt_toInt64_neg {quantity : ℚ}
    (stands : x.extended? = some ((quantity : WithTop ℚ) : ExtendedRational))
    (inside : |quantity| < 2 ^ 63) : x.neg.toInt64.toInt = -x.toInt64.toInt := by
  have bounds : |towardZero quantity| < 2 ^ 63 :=
    abs_towardZero_lt (by exact_mod_cast inside)
  obtain ⟨low, high⟩ := abs_lt.mp bounds
  have stands' : x.neg.extended? = some (((-quantity : ℚ) : WithTop ℚ) : ExtendedRational) := by
    obtain ⟨finite, worth⟩ := extended?_eq_coe_iff.mp stands
    refine extended?_eq_coe_iff.mpr ⟨?_, x.rational_neg.trans (congrArg Neg.neg worth)⟩
    unfold isFinite
    rwa [magnitude_neg]
  rw [toInt_toInt64_of_mem stands (by omega) high, toInt_toInt64_of_mem stands'
    (by rw [towardZero_neg]; omega) (by rw [towardZero_neg]; omega), towardZero_neg]

/-- A NaN becomes the integer zero, and every other number becomes what it stands for, truncated and
stopped at the bounds of 64 bits. So the order of numbers is kept, the sign goes through below the
bounds, and a number of 32 bits may be widened first, which leaves its value as it is. -/
theorem toInt64_truncates (proper : format.IsProper) (x y : Binary format) (s : Single) :
    (x.isNaN = true → IntConvertible.toInt64 x = 0) ∧
      (x.isNaN = false → ∃ value, x.extended? = some value ∧
        extendedInteger (IntConvertible.toInt64 x).toInt =
          max (extendedInteger (-2 ^ 63))
            (min (truncated value) (extendedInteger (2 ^ 63 - 1)))) ∧
      (x ≤ y → (IntConvertible.toInt64 x).toInt ≤ (IntConvertible.toInt64 y).toInt) ∧
      (∀ quantity : ℚ, x.extended? = some ((quantity : WithTop ℚ) : ExtendedRational) →
        |quantity| < 2 ^ 63 →
          (IntConvertible.toInt64 x.neg).toInt = -(IntConvertible.toInt64 x).toInt) ∧
      (FloatConvertible.toDouble s).extended? = s.extended? ∧
      IntConvertible.toInt64 (FloatConvertible.toDouble s) = IntConvertible.toInt64 s := by
  have widened : (s.convert : Double).extended? = s.extended? :=
    extended?_convert FloatFormat.single_isProper FloatFormat.double_isProper
      FloatFormat.double_widens_single s
  refine ⟨toInt64_of_isNaN, fun number => ?_, fun ordered => ?_,
    fun quantity stands inside => toInt_toInt64_neg stands inside, widened,
    toInt64_congr widened⟩
  · cases stands : x.extended? with
    | none =>
      rw [extended?_eq_none_iff, number] at stands
      cases stands
    | some value => exact ⟨value, rfl, toInt_toInt64 stands⟩
  · obtain ⟨value, value', stands, stands', ordered⟩ :=
      (le_iff proper.infinityBits_pos).mp ordered
    exact toInt64_mono stands stands' ordered

/-- Minus one and a half. -/
def minusThreeHalves : Double := ofParts true 0x3ff8000000000000

/-- The first number past the bounds of 64 bits. -/
def pastBounds : Double := ofParts false 0x43e0000000000000

/-- Minus one and a half becomes minus one, its opposite becomes one, and the first number past the
bounds becomes the upper bound. -/
theorem toInt64_truncates_halves :
    minusThreeHalves.isNaN = false ∧ minusThreeHalves ≤ pastBounds ∧
      minusThreeHalves.extended? = some (((-3 / 2 : ℚ) : WithTop ℚ) : ExtendedRational) ∧
      (IntConvertible.toInt64 minusThreeHalves).toInt = -1 ∧
      (IntConvertible.toInt64 minusThreeHalves.neg).toInt = 1 ∧
      (IntConvertible.toInt64 minusThreeHalves).toInt ≤ (IntConvertible.toInt64 pastBounds).toInt ∧
      (IntConvertible.toInt64 pastBounds).toInt = 2 ^ 63 - 1 := by
  have parts : minusThreeHalves.isNegative = true ∧
      minusThreeHalves.significand = 0x18000000000000 ∧ minusThreeHalves.exponent = -52 := by
    decide
  have stands : minusThreeHalves.extended? =
      some (((-3 / 2 : ℚ) : WithTop ℚ) : ExtendedRational) := by
    refine extended?_eq_coe_iff.mpr ⟨by decide, ?_⟩
    unfold rational
    rw [parts.1, parts.2.1, parts.2.2]
    norm_num
  have ordered : minusThreeHalves ≤ pastBounds := by decide
  have rounded : (IntConvertible.toInt64 minusThreeHalves).toInt = -1 := by decide
  obtain ⟨_, _, monotone, odd, _, _⟩ := toInt64_truncates FloatFormat.double_isProper
    minusThreeHalves pastBounds (ofParts false 0)
  refine ⟨by decide, ordered, stands, rounded, ?_, monotone ordered, by decide⟩
  rw [odd _ stands (by norm_num [abs_lt]), rounded, neg_neg]

end Binary

end Covenant
