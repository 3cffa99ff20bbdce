import Covenant.Proofs.Number.Truncation
import Mathlib.Data.Int.ModEq

/-!
# Conversions of integers

An integer of a machine type keeps its low 64 bits when it becomes an integer of 64 bits, and is
rounded to the nearest number when it becomes one of the double format. The two agree where both
lose nothing (`MachineInt.conversions_agree`). Rounding keeps the order of all integers
(`Binary.ofInt_le_ofInt`), is to the nearest number below the largest ones
(`Binary.isNearest_ofInt`), and loses nothing if the significand has room for the integer
(`Binary.rational_ofInt`).
-/
namespace Covenant

namespace Binary

variable {format : FloatFormat} {i j : ℤ}

/-- An integer is its size with its sign. -/
theorem sign_mul_natAbs (i : ℤ) :
    (if decide (i < 0) then -1 else 1) * ((i.natAbs : ℚ) / (1 : Nat)) = i := by
  have size : (i.natAbs : ℚ) = |(i : ℚ)| := by
    rw [Nat.cast_natAbs, Int.cast_abs]
  rw [size, Nat.cast_one, div_one]
  by_cases negative : i < 0
  · rw [if_pos (decide_eq_true negative), abs_of_neg (Int.cast_lt_zero.mpr negative)]
    ring
  · rw [if_neg (by simpa using negative), one_mul,
      abs_of_nonneg (by exact_mod_cast not_lt.mp negative)]

/-- An integer up to a power of two that is a value of the format becomes the nearest number. -/
theorem isNearest_ofInt (proper : format.IsProper) {exponent : Nat}
    (least : format.leastExponent ≤ exponent) (finite : exponent < format.bound)
    (small : i.natAbs ≤ 2 ^ exponent) : (ofInt i : Binary format).IsNearest i := by
  have one_fits : 1 ≤ 2 ^ (format.fractionBits + 1) := Nat.one_le_two_pow
  obtain ⟨limit, below, worth⟩ := FloatFormat.exists_magnitude proper one_fits least (by
      rw [Nat.cast_one, one_mul]
      exact zpow_lt_zpow_right₀ one_lt_two finite)
  have bound : ((i.natAbs : ℚ) / (1 : Nat)) ≤
      format.units limit * 2 ^ format.leastExponent := by
    rw [worth, Nat.cast_one, div_one, one_mul, zpow_natCast]
    exact_mod_cast small
  rw [← sign_mul_natAbs i]
  exact isNearest_ofQuotient proper.some_fraction _ Nat.one_pos below bound

/-- An integer that fits into a significand becomes a number of the same value. -/
theorem rational_ofInt (proper : format.IsProper) (least : format.leastExponent ≤ 0)
    (finite : format.fractionBits + 1 < format.bound)
    (fits : i.natAbs ≤ 2 ^ (format.fractionBits + 1)) :
    (ofInt i : Binary format).isFinite = true ∧ (ofInt i : Binary format).rational = i := by
  obtain ⟨magnitude, below, worth⟩ := FloatFormat.exists_magnitude proper fits least (by
    rw [zpow_zero, mul_one]
    calc (i.natAbs : ℚ) ≤ 2 ^ (format.fractionBits + 1) := by exact_mod_cast fits
      _ < 2 ^ format.bound := by
        rw [← zpow_natCast]
        exact zpow_lt_zpow_right₀ one_lt_two (by exact_mod_cast finite))
  have same : ((i.natAbs : ℚ) / (1 : Nat)) = format.units magnitude * 2 ^ format.leastExponent := by
    rw [worth, Nat.cast_one, div_one, zpow_zero, mul_one]
  have bound := below.trans format.infinityBits_lt
  have rounded : (ofInt i : Binary format) = ofParts (decide (i < 0)) magnitude :=
    ofQuotient_eq_ofParts proper.some_fraction _ Nat.one_pos below same
  constructor
  · unfold isFinite
    rw [rounded, magnitude_ofParts _ bound]
    exact decide_eq_true below
  · rw [rounded, rational_eq_units, isNegative_ofParts _ bound, magnitude_ofParts _ bound,
      mul_assoc, ← same, sign_mul_natAbs]

/-- The key of an integer's number is the magnitude that the size of the integer rounds to, unless
that is past all numbers, with the sign of the integer. -/
theorem exists_key_ofInt (some_fraction : 0 < format.fractionBits) (i : ℤ) : ∃ magnitude,
    format.Rounds (i.natAbs / 2 ^ format.leastExponent) magnitude ∧
      (ofInt i : Binary format).isNaN = false ∧ (ofInt i : Binary format).key =
        if i < 0 then -((min magnitude format.infinityBits : ℕ) : ℤ)
        else ((min magnitude format.infinityBits : ℕ) : ℤ) := by
  obtain ⟨magnitude, rounds, rounded⟩ :=
    exists_rounds_ofQuotient some_fraction (decide (i < 0)) i.natAbs Nat.one_pos
  rw [Nat.cast_one, div_one] at rounds
  have clipped : min magnitude format.infinityBits < 2 ^ (format.width - 1) :=
    (Nat.min_le_right _ _).trans_lt format.infinityBits_lt
  change (ofInt i : Binary format) = _ at rounded
  refine ⟨magnitude, rounds, ?_, ?_⟩
  · unfold isNaN
    rw [rounded, magnitude_ofParts _ clipped]
    exact decide_eq_false (Nat.min_le_right _ _).not_gt
  · unfold key
    rw [rounded, isNegative_ofParts _ clipped, magnitude_ofParts _ clipped]
    simp only [decide_eq_true_eq]

/-- Rounding keeps the order of integers. -/
theorem ofInt_le_ofInt (some_fraction : 0 < format.fractionBits) (ordered : i ≤ j) :
    (ofInt i : Binary format) ≤ ofInt j := by
  obtain ⟨magnitude, rounds, number, key_eq⟩ := exists_key_ofInt some_fraction i
  obtain ⟨magnitude', rounds', number', key_eq'⟩ := exists_key_ofInt some_fraction j
  have scale : (0 : ℚ) ≤ 2 ^ format.leastExponent := by positivity
  have ascends (larger : i.natAbs ≤ j.natAbs) : magnitude ≤ magnitude' :=
    rounds.mono rounds' (div_le_div_of_nonneg_right (Nat.cast_le.mpr larger) scale)
  have descends (smaller : j.natAbs ≤ i.natAbs) : magnitude' ≤ magnitude :=
    rounds'.mono rounds (div_le_div_of_nonneg_right (Nat.cast_le.mpr smaller) scale)
  rw [le_iff_key, key_eq, key_eq']
  refine ⟨number, number', ?_⟩
  by_cases negative : i < 0 <;> by_cases negative' : j < 0
  · have sizes := descends (by omega)
    rw [if_pos negative, if_pos negative']
    omega
  · rw [if_pos negative, if_neg negative']
    omega
  · omega
  · have sizes := ascends (by omega)
    rw [if_neg negative, if_neg negative']
    omega

end Binary

namespace MachineInt

variable {type : IntegerType}

/-- A machine integer is not larger than its type allows. -/
theorem natAbs_le (i : MachineInt type) : i.value.natAbs ≤ 2 ^ type.width := by
  obtain ⟨low, high⟩ := i.held
  have half : 2 ^ (type.width - 1) ≤ 2 ^ type.width :=
    Nat.pow_le_pow_right two_pos (Nat.sub_le _ _)
  unfold IntegerType.least at low
  unfold IntegerType.greatest at high
  rw [Nat.pow_eq] at low high
  rw [Nat.pow_eq] at high
  cases signed : type.signed <;>
    simp only [signed, Bool.false_eq_true, ↓reduceIte] at low high <;> omega

/-- The integer of 64 bits has the low bits of the machine integer. -/
theorem toInt_toInt64 (i : MachineInt type) : i.toInt64.toInt = i.value.bmod (2 ^ 64) :=
  Int64.toInt_ofInt

/-- No other integer of 64 bits has these low bits. -/
theorem eq_toInt64_of_modEq {i : MachineInt type} {k : Int64}
    (congruent : k.toInt ≡ i.value [ZMOD 2 ^ 64]) : k = i.toInt64 := by
  apply Int64.toInt_inj.mp
  rw [toInt_toInt64, ← Int.emod_bmod, ← k.toInt_bmod, ← Int.emod_bmod k.toInt]
  exact congrArg (Int.bmod · (2 ^ 64)) congruent

/-- A machine integer that has 64 bits stays as it is. -/
theorem toInt_toInt64_of_mem {i : MachineInt type} (low : -2 ^ 63 ≤ i.value)
    (high : i.value < 2 ^ 63) : i.toInt64.toInt = i.value :=
  Int64.toInt_ofInt_of_le low high

/-- A machine integer that has 64 bits and is not rounded is truncated to itself. -/
theorem toInt64_toDouble {i : MachineInt type} (finite : i.toDouble.isFinite = true)
    (same : i.toDouble.rational = i.value) (low : -2 ^ 63 ≤ i.value) (high : i.value < 2 ^ 63) :
    i.toDouble.toInt64 = i.toInt64 := by
  have stands := Binary.extended?_eq_coe_iff.mpr ⟨finite, same⟩
  apply Int64.toInt_inj.mp
  rw [toInt_toInt64_of_mem low high, Binary.toInt_toInt64_of_mem stands, towardZero_intCast]
  · rwa [towardZero_intCast]
  · rwa [towardZero_intCast]

/-- The three conversions of a machine integer agree. The integer of 64 bits is the one with the
same low bits. The number is the nearest one, and larger integers have no smaller numbers. The
complex number is on the real axis. An integer that has 64 bits and is not rounded, such as every
one up to two to the power 53, comes back from its number as itself. -/
theorem conversions_agree (small : type.width ≤ 128) (i j : MachineInt type) :
    (IntConvertible.toInt64 i).toInt ≡ i.value [ZMOD 2 ^ 64] ∧
      (∀ k : Int64, k.toInt ≡ i.value [ZMOD 2 ^ 64] → k = IntConvertible.toInt64 i) ∧
      (-2 ^ 63 ≤ i.value → i.value < 2 ^ 63 → (IntConvertible.toInt64 i).toInt = i.value) ∧
      (FloatConvertible.toDouble i).IsNearest i.value ∧
      (i.value ≤ j.value → FloatConvertible.toDouble i ≤ FloatConvertible.toDouble j) ∧
      ComplexConvertible.toComplex i = ⟨FloatConvertible.toDouble i, .zero⟩ ∧
      (-2 ^ 63 ≤ i.value → i.value < 2 ^ 63 →
        (FloatConvertible.toDouble i).rational = i.value →
          IntConvertible.toInt64 (FloatConvertible.toDouble i) = IntConvertible.toInt64 i) ∧
      (|i.value| ≤ 2 ^ 53 → (FloatConvertible.toDouble i).rational = i.value ∧
        IntConvertible.toInt64 (FloatConvertible.toDouble i) = IntConvertible.toInt64 i ∧
          (IntConvertible.toInt64 i).toInt = i.value) := by
  have proper := FloatFormat.double_isProper
  have nearest : i.toDouble.IsNearest i.value :=
    Binary.isNearest_ofInt proper (by decide) (by decide)
      (i.natAbs_le.trans (Nat.pow_le_pow_right two_pos small))
  refine ⟨?_, fun k => eq_toInt64_of_modEq, toInt_toInt64_of_mem, nearest,
    Binary.ofInt_le_ofInt proper.some_fraction, rfl,
    fun low high same => toInt64_toDouble nearest.finite same low high, fun fits => ?_⟩
  · change i.toInt64.toInt % 2 ^ 64 = _
    rw [toInt_toInt64]
    exact Int.bmod_emod
  · obtain ⟨low, high⟩ := abs_le.mp fits
    have same : i.toDouble.rational = i.value :=
      (Binary.rational_ofInt proper (by decide) (by decide) (by
        change i.value.natAbs ≤ 2 ^ 53
        omega)).2
    exact ⟨same, toInt64_toDouble nearest.finite same (by omega) (by omega),
      toInt_toInt64_of_mem (by omega) (by omega)⟩

/-- The integer up to which all integers are numbers of the double format. -/
def lastExact : MachineInt ⟨64, true⟩ := ⟨2 ^ 53, by decide⟩

/-- The next integer, which is a tie between two numbers of the double format. -/
def firstTie : MachineInt ⟨64, true⟩ := ⟨2 ^ 53 + 1, by decide⟩

/-- The last integer that is not rounded comes back as itself, and the next one is rounded to the
same number, which is the even one. -/
theorem conversions_agree_tie :
    (⟨64, true⟩ : IntegerType).width ≤ 128 ∧ lastExact.value ≤ firstTie.value ∧
      |lastExact.value| ≤ 2 ^ 53 ∧
      (FloatConvertible.toDouble lastExact).rational = lastExact.value ∧
      IntConvertible.toInt64 (FloatConvertible.toDouble lastExact) =
        IntConvertible.toInt64 lastExact ∧
      (IntConvertible.toInt64 lastExact).toInt = 2 ^ 53 ∧
      FloatConvertible.toDouble lastExact ≤ FloatConvertible.toDouble firstTie ∧
      (FloatConvertible.toDouble firstTie).bits = (FloatConvertible.toDouble lastExact).bits := by
  have ordered : lastExact.value ≤ firstTie.value := by decide
  have fits : |lastExact.value| ≤ 2 ^ 53 := by decide
  obtain ⟨_, _, _, _, monotone, _, _, unrounded⟩ :=
    conversions_agree (by decide) lastExact firstTie
  obtain ⟨same, back, integer⟩ := unrounded fits
  exact ⟨by decide, ordered, fits, same, back, integer, monotone ordered, by decide +kernel⟩

end MachineInt

end Covenant
