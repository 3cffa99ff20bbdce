import Covenant.Proofs.Number.Quotient

/-!
# Values that a format has

A significand that fits, at a scale from the least exponent on, is a value of a format unless it is
past the largest one (`FloatFormat.exists_magnitude`). So a format that keeps all bits, all small
and all large exponents of another one has all its values (`FloatFormat.Widens`), and converting to
it does not change what a number stands for (`Binary.extended?_convert`).
-/
namespace Covenant

namespace FloatFormat

variable {format target : FloatFormat}

/-- A format has bits for an exponent and for a fraction. -/
structure IsProper (format : FloatFormat) : Prop where
  /-- It has bits for an exponent. -/
  some_exponent : 0 < format.exponentBits
  /-- It has bits for a fraction. -/
  some_fraction : 0 < format.fractionBits

/-- The power of two above all finite numbers. -/
def bound (format : FloatFormat) : ℤ :=
  format.leastExponent + format.fractionBits + (format.specialExponent - 1 : Nat)

/-- A format has all values of another one. -/
structure Widens (target format : FloatFormat) : Prop where
  /-- It keeps as many bits. -/
  fractionBits : format.fractionBits ≤ target.fractionBits
  /-- Its units are as small. -/
  leastExponent : target.leastExponent ≤ format.leastExponent
  /-- Its finite numbers reach as far. -/
  bound : format.bound ≤ target.bound

theorem single_isProper : single.IsProper := ⟨by decide, by decide⟩

theorem double_isProper : double.IsProper := ⟨by decide, by decide⟩

theorem double_widens_single : double.Widens single := ⟨by decide, by decide, by decide⟩

/-- A proper format has exponents below that of infinities. -/
theorem IsProper.specialExponent_pos (proper : format.IsProper) : 0 < format.specialExponent :=
  Nat.sub_pos_of_lt (Nat.one_lt_two_pow proper.some_exponent.ne')

/-- A proper format has infinities apart from zeros. -/
theorem IsProper.infinityBits_pos (proper : format.IsProper) : 0 < format.infinityBits :=
  Nat.mul_pos proper.specialExponent_pos (Nat.two_pow_pos _)

/-- The bits of infinities would be worth the power of two above all finite numbers. -/
theorem units_infinityBits (proper : format.IsProper) :
    format.units format.infinityBits * (2 : ℚ) ^ format.leastExponent = 2 ^ format.bound := by
  have worth : format.units format.infinityBits =
      2 ^ format.fractionBits * 2 ^ (format.specialExponent - 1) := by
    change format.units (format.specialExponent * 2 ^ format.fractionBits + 0) = _
    rw [units_of_block (Nat.two_pow_pos _), if_neg proper.specialExponent_pos.ne', Nat.add_zero]
  unfold bound
  rw [worth, zpow_add₀ two_ne_zero, zpow_add₀ two_ne_zero, zpow_natCast, zpow_natCast]
  push_cast
  ring

/-- A significand at any scale is a magnitude. -/
theorem exists_units (format : FloatFormat) {significand : Nat}
    (fits : significand ≤ 2 ^ (format.fractionBits + 1)) (scale : Nat) :
    ∃ magnitude, format.units magnitude = significand * 2 ^ scale := by
  induction scale generalizing significand with
  | zero => exact ⟨_, units_scaled (.inl rfl) fits⟩
  | succ scale ih =>
    rcases Nat.lt_or_ge significand (2 ^ format.fractionBits) with small | large
    · -- There is room for the factor in the significand.
      have doubled : 2 * significand ≤ 2 ^ (format.fractionBits + 1) := by
        rw [Nat.pow_succ']
        omega
      obtain ⟨magnitude, worth⟩ := ih doubled
      refine ⟨magnitude, worth.trans ?_⟩
      ring
    · exact ⟨_, units_scaled (.inr large) fits⟩

/-- A significand that fits is, at a scale from the least exponent on, a value of the format, unless
it reaches the power of two above all of them. -/
theorem exists_magnitude (proper : format.IsProper) {significand : Nat} {exponent : ℤ}
    (fits : significand ≤ 2 ^ (format.fractionBits + 1))
    (least : format.leastExponent ≤ exponent)
    (below : significand * (2 : ℚ) ^ exponent < 2 ^ format.bound) :
    ∃ magnitude < format.infinityBits,
      format.units magnitude * (2 : ℚ) ^ format.leastExponent = significand * 2 ^ exponent := by
  obtain ⟨magnitude, worth⟩ := format.exists_units fits (exponent - format.leastExponent).toNat
  have scale : (0 : ℚ) < 2 ^ format.leastExponent := by positivity
  have value : format.units magnitude * (2 : ℚ) ^ format.leastExponent =
      significand * 2 ^ exponent := by
    rw [worth, Nat.cast_mul, Nat.cast_pow, Nat.cast_ofNat, ← zpow_natCast,
      Int.toNat_of_nonneg (Int.sub_nonneg_of_le least), mul_assoc, ← zpow_add₀ two_ne_zero,
      Int.sub_add_cancel]
  refine ⟨magnitude, ?_, value⟩
  rw [← value, ← units_infinityBits proper] at below
  exact units_strictMono.lt_iff_lt.mp (Nat.cast_lt.mp (lt_of_mul_lt_mul_right below scale.le))

end FloatFormat

namespace Binary

variable {format target : FloatFormat} {x : Binary format}

/-- A significand has one bit more than the fraction. -/
theorem significand_lt (x : Binary format) : x.significand < 2 ^ (format.fractionBits + 1) := by
  have fraction : x.fraction < 2 ^ format.fractionBits := Nat.mod_lt _ (Nat.two_pow_pos _)
  rw [Nat.pow_succ']
  unfold significand
  split
  · omega
  · change 2 ^ format.fractionBits + x.fraction < _
    omega

/-- A finite number is below the power of two above all of them. -/
theorem significand_mul_lt (proper : format.IsProper) (finite : x.isFinite = true) :
    x.significand * (2 : ℚ) ^ x.exponent < 2 ^ format.bound := by
  have scale : (0 : ℚ) < 2 ^ format.leastExponent := by positivity
  rw [significand_mul_two_zpow, ← FloatFormat.units_infinityBits proper]
  exact mul_lt_mul_of_pos_right
    (Nat.cast_lt.mpr (FloatFormat.units_strictMono (of_decide_eq_true finite))) scale

/-- A significand at a scale is a quotient of powers of two. -/
theorem quotient_ofScaled (significand : Nat) (exponent : ℤ) :
    ((significand * 2 ^ exponent.toNat : Nat) : ℚ) / (2 ^ (-exponent).toNat : Nat) =
      significand * 2 ^ exponent := by
  push_cast
  rw [← RoundingInterval.zpow_mul_pow_toNat two_pos exponent, ← mul_assoc,
    mul_div_cancel_right₀ _ (by positivity)]

/-! ## Conversion -/

/-- A NaN stays one. -/
theorem isNaN_convert (some_fraction : 0 < target.fractionBits) (nan : x.isNaN = true) :
    (x.convert : Binary target).isNaN = true := by
  have converted : (x.convert : Binary target) =
      ofParts x.isNegative (target.infinityBits + 2 ^ (target.fractionBits - 1)) := by
    unfold convert
    rw [value_of_isNaN nan]
    rfl
  have half : 2 ^ (target.fractionBits - 1) < 2 ^ target.fractionBits :=
    Nat.pow_lt_pow_right one_lt_two (Nat.sub_one_lt some_fraction.ne')
  have bound : target.infinityBits + 2 ^ (target.fractionBits - 1) < 2 ^ (target.width - 1) := by
    rw [← target.infinityBits_add]
    exact Nat.add_lt_add_left half _
  unfold isNaN
  rw [converted, magnitude_ofParts _ bound]
  exact decide_eq_true (Nat.lt_add_of_pos_right (Nat.two_pow_pos _))

section Conversion

variable (proper : format.IsProper) (proper' : target.IsProper) (wider : target.Widens format)
include proper proper' wider

/-- A finite number keeps its value. -/
theorem convert_of_isFinite (finite : x.isFinite = true) :
    ∃ magnitude < target.infinityBits,
      (x.convert : Binary target) = ofParts x.isNegative magnitude ∧
        target.units magnitude * (2 : ℚ) ^ target.leastExponent =
          format.units x.magnitude * 2 ^ format.leastExponent := by
  have fits : x.significand ≤ 2 ^ (target.fractionBits + 1) :=
    x.significand_lt.le.trans (Nat.pow_le_pow_right two_pos (Nat.succ_le_succ wider.fractionBits))
  have least : target.leastExponent ≤ x.exponent :=
    wider.leastExponent.trans (Int.le_add_of_nonneg_right (Int.natCast_nonneg _))
  have below : x.significand * (2 : ℚ) ^ x.exponent < 2 ^ target.bound :=
    (significand_mul_lt proper finite).trans_le (zpow_le_zpow_right₀ one_le_two wider.bound)
  obtain ⟨magnitude, small, worth⟩ := FloatFormat.exists_magnitude proper' fits least below
  refine ⟨magnitude, small, ?_, worth.trans x.significand_mul_two_zpow⟩
  have converted : (x.convert : Binary target) =
      ofScaled x.isNegative x.significand x.exponent := by
    unfold convert
    rw [value_of_isFinite finite]
  rw [converted]
  exact ofQuotient_eq_ofParts proper'.some_fraction x.isNegative (Nat.two_pow_pos _) small
    ((quotient_ofScaled _ _).trans worth.symm)

/-- A number has the same value in a wider format. -/
theorem extended?_convert (x : Binary format) :
    (x.convert : Binary target).extended? = x.extended? := by
  rcases x.isNaN_or_isInfinite_or_isFinite with nan | infinite | finite
  · rw [extended?_of_isNaN (isNaN_convert proper'.some_fraction nan), extended?_of_isNaN nan]
  · have converted : (x.convert : Binary target) =
        ofParts x.isNegative target.infinityBits := by
      unfold convert
      rw [value_of_isInfinite infinite]
    have infinite' : (x.convert : Binary target).isInfinite = true := by
      unfold isInfinite
      rw [converted, magnitude_ofParts _ target.infinityBits_lt]
      exact beq_self_eq_true _
    rw [extended?_of_isInfinite infinite', extended?_of_isInfinite infinite, converted,
      isNegative_ofParts _ target.infinityBits_lt]
  · obtain ⟨magnitude, small, converted, worth⟩ := convert_of_isFinite proper proper' wider finite
    have bound := small.trans target.infinityBits_lt
    have finite' : (x.convert : Binary target).isFinite = true := by
      unfold isFinite
      rw [converted, magnitude_ofParts _ bound]
      exact decide_eq_true small
    rw [extended?_of_isFinite finite', extended?_of_isFinite finite, rational_eq_units,
      rational_eq_units, converted, isNegative_ofParts _ bound, magnitude_ofParts _ bound,
      mul_assoc, mul_assoc, worth]

end Conversion

end Binary

end Covenant
