import Covenant.Number.Decimal
import Covenant.Proofs.Number.Magnitude
import Mathlib.Algebra.Order.Field.Power
import Mathlib.Data.Rat.Cast.Order
import Mathlib.Tactic.Linarith
import Mathlib.Tactic.NormNum
import Mathlib.Tactic.Positivity

/-!
# What decimals round to

A decimal stands for a number when it lies in the number's interval
(`RoundingInterval.Contains`). The interval goes from the middle between the number and the one
before it to the middle between the number and the next, and has these ends exactly when the
magnitude is even (`Binary.contains_iff`). So two intervals have nothing in common
(`Binary.magnitude_eq_of_contains`). The shortest decimal of a number lies in its interval
(`RoundingInterval.contains_shortest`), and hence stands for no other number
(`Binary.magnitude_eq_of_value_shortest`).
-/
namespace Covenant

/-- The value of a decimal. -/
def Decimal.value (decimal : Decimal) : ℚ := decimal.digits * 10 ^ decimal.exponent

namespace RoundingInterval

variable {interval : RoundingInterval}

/-- A value lies in an interval. -/
def Contains (interval : RoundingInterval) (value : ℚ) : Prop :=
  if interval.closed then
    interval.low * 2 ^ interval.exponent ≤ value ∧ value ≤ interval.high * 2 ^ interval.exponent
  else
    interval.low * 2 ^ interval.exponent < value ∧ value < interval.high * 2 ^ interval.exponent

/-- A power is a quotient of powers to naturals. -/
theorem zpow_mul_pow_toNat {base : ℚ} (positive : 0 < base) (exponent : ℤ) :
    base ^ exponent * base ^ (-exponent).toNat = base ^ exponent.toNat := by
  rw [← zpow_natCast, ← zpow_natCast, ← zpow_add₀ positive.ne']
  congr 1
  omega

/-- The factors are the quarter unit and the power of ten on one scale. -/
theorem factors_spec (interval : RoundingInterval) (power : ℤ) : ∃ scale : ℚ, 0 < scale ∧
    ((interval.factors power).1 : ℚ) = 2 ^ interval.exponent * scale ∧
    ((interval.factors power).2 : ℚ) = 10 ^ power * scale := by
  refine ⟨2 ^ (-interval.exponent).toNat * 10 ^ (-power).toNat, by positivity, ?_, ?_⟩
  · unfold factors
    simp only [Nat.pow_eq]
    push_cast
    rw [← zpow_mul_pow_toNat two_pos]
    ring
  · unfold factors
    simp only [Nat.pow_eq]
    push_cast
    rw [← zpow_mul_pow_toNat (by norm_num : (0 : ℚ) < 10)]
    ring

/-- The check in integers decides whether the value of a decimal lies in the interval. -/
theorem holds_iff {decimal : Decimal} :
    interval.holds decimal = true ↔ interval.Contains decimal.value := by
  obtain ⟨scale, positive, unit, ten⟩ := interval.factors_spec decimal.exponent
  have le_iff (first second : Nat) (left right : ℚ)
      (first_eq : (first : ℚ) = left * scale) (second_eq : (second : ℚ) = right * scale) :
      (first ≤ second ↔ left ≤ right) ∧ (first < second ↔ left < right) := by
    rw [← @Nat.cast_le ℚ, ← @Nat.cast_lt ℚ, first_eq, second_eq]
    exact ⟨mul_le_mul_iff_of_pos_right positive, mul_lt_mul_iff_of_pos_right positive⟩
  have edge (count : Nat) : ((count * (interval.factors decimal.exponent).1 : Nat) : ℚ) =
      count * 2 ^ interval.exponent * scale := by
    rw [Nat.cast_mul, unit, mul_assoc]
  have point : ((decimal.digits * (interval.factors decimal.exponent).2 : Nat) : ℚ) =
      decimal.value * scale := by
    rw [Nat.cast_mul, ten, Decimal.value, mul_assoc]
  obtain ⟨low_le, low_lt⟩ := le_iff _ _ _ _ (edge interval.low) point
  obtain ⟨le_high, lt_high⟩ := le_iff _ _ _ _ point (edge interval.high)
  unfold holds Contains
  dsimp only
  cases interval.closed with
  | true =>
    simp only [↓reduceIte, Bool.and_eq_true, decide_eq_true_eq]
    exact and_congr low_le le_high
  | false =>
    simp only [Bool.false_eq_true, ↓reduceIte, Bool.and_eq_true, decide_eq_true_eq]
    exact and_congr low_lt lt_high

/-! ## The shortest decimal -/

/-- A decimal that is found on a grid lies in the interval. -/
theorem contains_of_onGrid? {tie : Tie} {power : ℤ} {decimal : Decimal}
    (found : interval.onGrid? tie power = some decimal) : interval.Contains decimal.value := by
  rw [← holds_iff]
  unfold onGrid? at found
  dsimp only at found
  split at found
  · cases found
  · cases found
    assumption
  · cases found
    assumption
  · rename_i below above
    split at found
    · cases found
      exact below
    · split at found
      · cases found
        exact above
      · cases tie with
        | upward =>
          cases found
          exact above
        | even =>
          cases found
          split
          · exact below
          · exact above

/-- The middle as a decimal is the middle. -/
theorem value_exact : interval.exact.value = interval.middle * 2 ^ interval.exponent := by
  unfold exact Decimal.value
  simp only [Nat.pow_eq]
  by_cases whole : 0 ≤ interval.exponent
  · rw [if_pos whole]
    push_cast
    rw [mul_one, ← zpow_natCast, Int.toNat_of_nonneg whole]
  · rw [if_neg whole]
    push_cast
    have fives : (5 : ℚ) ^ interval.exponent * 5 ^ (-interval.exponent).toNat = 1 := by
      rw [zpow_mul_pow_toNat (by norm_num), Int.toNat_of_nonpos (by omega), pow_zero]
    calc (interval.middle : ℚ) * 5 ^ (-interval.exponent).toNat * 10 ^ interval.exponent
        = interval.middle * 2 ^ interval.exponent *
            (5 ^ interval.exponent * 5 ^ (-interval.exponent).toNat) := by
          rw [show (10 : ℚ) = 5 * 2 by norm_num, mul_zpow]
          ring
      _ = interval.middle * 2 ^ interval.exponent := by rw [fives, mul_one]

section Shortest

variable (below : interval.low < interval.middle) (above : interval.middle < interval.high)
include below above

/-- The middle lies in the interval. -/
theorem contains_exact : interval.Contains interval.exact.value := by
  have positive : (0 : ℚ) < 2 ^ interval.exponent := by positivity
  have lower : (interval.low : ℚ) * 2 ^ interval.exponent < interval.exact.value := by
    rw [value_exact]
    exact mul_lt_mul_of_pos_right (Nat.cast_lt.mpr below) positive
  have upper : interval.exact.value < (interval.high : ℚ) * 2 ^ interval.exponent := by
    rw [value_exact]
    exact mul_lt_mul_of_pos_right (Nat.cast_lt.mpr above) positive
  unfold Contains
  split
  · exact ⟨lower.le, upper.le⟩
  · exact ⟨lower, upper⟩

/-- The search for the coarsest grid finds a decimal in the interval, however long it goes on. -/
theorem contains_coarsestFrom (tie : Tie) (steps : Nat) (power : ℤ) :
    interval.Contains (interval.coarsestFrom tie steps power).value := by
  induction steps generalizing power with
  | zero => exact contains_exact below above
  | succ steps ih =>
    unfold coarsestFrom
    split
    · rename_i found
      exact contains_of_onGrid? found
    · exact ih (power - 1)

/-- The shortest decimal of an interval lies in it. -/
theorem contains_shortest (tie : Tie) : interval.Contains (interval.shortest tie).value :=
  contains_coarsestFrom below above tie _ _

end Shortest

end RoundingInterval

namespace Binary

variable {format : FloatFormat} {x y : Binary format} {value : ℚ}

/-! ## The interval of a number -/

/-- A significand is even exactly if the magnitude is. -/
theorem significand_mod_two (some_fraction : 0 < format.fractionBits) :
    x.significand % 2 = x.magnitude % 2 := by
  have even : 2 ∣ 2 ^ format.fractionBits := Dvd.dvd.pow (dvd_refl 2) some_fraction.ne'
  have fraction : x.fraction % 2 = x.magnitude % 2 := Nat.mod_mod_of_dvd x.magnitude even
  unfold significand
  split
  · exact fraction
  · change (2 ^ format.fractionBits + x.fraction) % 2 = _
    omega

/-- An interval begins in the middle between the magnitude before and its own. -/
theorem low_mul_spacing {before : Nat} (next : x.magnitude = before + 1) :
    x.roundingInterval.low * format.spacing x.magnitude = 2 * format.middle before := by
  have nearer : (if (x.fraction == 0 && 1 < x.exponentField) = true then 1 else 2) *
      format.spacing x.magnitude = 2 * format.spacing before := by
    have starts : (x.fraction == 0 && 1 < x.exponentField) = true ↔
        (before + 1) % 2 ^ format.fractionBits = 0 ∧
          1 < (before + 1) / 2 ^ format.fractionBits := by
      rw [← next, Bool.and_eq_true, beq_iff_eq, decide_eq_true_eq]
      rfl
    rw [next, FloatFormat.spacing_succ]
    simp only [starts]
    split
    · exact Nat.one_mul _
    · rfl
  have worth := units_magnitude x
  have grows := format.units_succ before
  change (4 * x.significand - _) * _ = _
  rw [Nat.sub_mul, nearer, Nat.mul_assoc, ← worth, next, grows, FloatFormat.middle, grows]
  omega

/-- An interval ends in the middle between its own magnitude and the next. -/
theorem high_mul_spacing (x : Binary format) :
    x.roundingInterval.high * format.spacing x.magnitude = 2 * format.middle x.magnitude := by
  change (4 * x.significand + 2) * format.spacing x.magnitude = _
  rw [FloatFormat.middle, FloatFormat.units_succ, units_magnitude]
  ring

/-- The decimals that stand for a number lie between the two middles around its magnitude, and are
the middles themselves if the magnitude is even. -/
theorem contains_iff (some_fraction : 0 < format.fractionBits) {before : Nat}
    (next : x.magnitude = before + 1) : x.roundingInterval.Contains value ↔
      if x.magnitude % 2 = 0 then
        format.middle before * 2 ^ (format.leastExponent - 1) ≤ value ∧
          value ≤ format.middle x.magnitude * 2 ^ (format.leastExponent - 1)
      else
        format.middle before * 2 ^ (format.leastExponent - 1) < value ∧
          value < format.middle x.magnitude * 2 ^ (format.leastExponent - 1) := by
  have exponent : (2 : ℚ) ^ x.roundingInterval.exponent =
      format.spacing x.magnitude * 2 ^ (format.leastExponent - 2) := by
    change (2 : ℚ) ^ (format.leastExponent + ((x.exponentField - 1 : Nat) : ℤ) - 2) =
      ((2 ^ (x.exponentField - 1) : Nat) : ℚ) * _
    rw [Nat.cast_pow, Nat.cast_ofNat, ← zpow_natCast, ← zpow_add₀ two_ne_zero]
    congr 1
    ring
  have edge (count middle : Nat) (scaled : count * format.spacing x.magnitude = 2 * middle) :
      (count : ℚ) * 2 ^ x.roundingInterval.exponent =
        middle * 2 ^ (format.leastExponent - 1) := by
    calc (count : ℚ) * 2 ^ x.roundingInterval.exponent
        = ((count * format.spacing x.magnitude : Nat) : ℚ) * 2 ^ (format.leastExponent - 2) := by
          rw [exponent, Nat.cast_mul, mul_assoc]
      _ = middle * (2 ^ (1 : ℤ) * 2 ^ (format.leastExponent - 2)) := by
          rw [scaled, Nat.cast_mul, Nat.cast_ofNat, zpow_one]
          ring
      _ = middle * 2 ^ (format.leastExponent - 1) := by
          rw [← zpow_add₀ two_ne_zero]
          congr 2
          ring
  have closed : x.roundingInterval.closed = decide (x.magnitude % 2 = 0) := by
    rw [← significand_mod_two some_fraction]
    rfl
  unfold RoundingInterval.Contains
  rw [edge _ _ (low_mul_spacing next), edge _ _ x.high_mul_spacing, closed]
  simp only [decide_eq_true_eq]

/-- The decimals that stand for a number do not stand for a larger one. -/
theorem not_contains_of_lt (some_fraction : 0 < format.fractionBits) (positive : x.magnitude ≠ 0)
    (below : x.magnitude < y.magnitude) (first : x.roundingInterval.Contains value) :
    ¬y.roundingInterval.Contains value := by
  intro second
  obtain ⟨before, next⟩ := Nat.exists_eq_succ_of_ne_zero positive
  obtain ⟨before', next'⟩ := Nat.exists_eq_succ_of_ne_zero (Nat.ne_zero_of_lt below)
  rw [contains_iff some_fraction next] at first
  rw [contains_iff some_fraction next'] at second
  have half : (0 : ℚ) < 2 ^ (format.leastExponent - 1) := by positivity
  rcases Nat.lt_or_eq_of_le (show x.magnitude ≤ before' by omega) with apart | adjacent
  · -- The middles are different, so the intervals do not even touch.
    have middles : (format.middle x.magnitude : ℚ) * 2 ^ (format.leastExponent - 1) <
        format.middle before' * 2 ^ (format.leastExponent - 1) :=
      mul_lt_mul_of_pos_right (Nat.cast_lt.mpr (FloatFormat.middle_strictMono apart)) half
    have upper : value ≤ format.middle x.magnitude * 2 ^ (format.leastExponent - 1) := by
      split at first
      · exact first.2
      · exact first.2.le
    have lower : format.middle before' * 2 ^ (format.leastExponent - 1) ≤ value := by
      split at second
      · exact second.1
      · exact second.1.le
    exact absurd (middles.trans_le lower) upper.not_gt
  · -- The intervals have one middle as an end, and it belongs to the even magnitude.
    rw [← adjacent] at second
    by_cases even : x.magnitude % 2 = 0
    · rw [if_pos even] at first
      rw [if_neg (by omega)] at second
      exact absurd second.1 first.2.not_gt
    · rw [if_neg even] at first
      rw [if_pos (by omega)] at second
      exact absurd first.2 second.1.not_gt

/-- A decimal stands for one magnitude only. -/
theorem magnitude_eq_of_contains (some_fraction : 0 < format.fractionBits)
    (positive : x.magnitude ≠ 0) (positive' : y.magnitude ≠ 0)
    (first : x.roundingInterval.Contains value) (second : y.roundingInterval.Contains value) :
    x.magnitude = y.magnitude := by
  rcases Nat.lt_trichotomy x.magnitude y.magnitude with below | same | above
  · exact absurd second (not_contains_of_lt some_fraction positive below first)
  · exact same
  · exact absurd first (not_contains_of_lt some_fraction positive' above second)

/-! ## The shortest decimal of a number -/

/-- The magnitude determines the shortest decimal. -/
theorem shortest_congr (tie : Tie) (same : x.magnitude = y.magnitude) :
    x.shortest tie = y.shortest tie := by
  have fields : x.exponentField = y.exponentField ∧ x.fraction = y.fraction := by
    unfold exponentField fraction
    rw [same]
    exact ⟨rfl, rfl⟩
  unfold shortest roundingInterval significand exponent
  rw [same, fields.1, fields.2]

/-- The shortest decimal of a number that is not zero stands for it. -/
theorem contains_shortest (positive : x.magnitude ≠ 0) (tie : Tie) :
    x.roundingInterval.Contains (x.shortest tie).value := by
  unfold shortest
  rw [if_neg positive]
  have worth : 0 < x.significand * format.spacing x.magnitude := by
    rw [← units_magnitude]
    exact (Nat.zero_le _).trans_lt (FloatFormat.units_strictMono (Nat.pos_of_ne_zero positive))
  have some_significand : 0 < x.significand := Nat.pos_of_mul_pos_right worth
  refine RoundingInterval.contains_shortest ?_ ?_ tie
  · change 4 * x.significand - (if _ then 1 else 2) < 4 * x.significand
    split <;> omega
  · exact Nat.lt_add_of_pos_right two_pos

/-- The shortest decimal of a number is zero for zero only. -/
theorem value_shortest_eq_zero_iff (some_fraction : 0 < format.fractionBits) {tie : Tie} :
    (x.shortest tie).value = 0 ↔ x.magnitude = 0 := by
  constructor
  · intro zero
    by_contra positive
    obtain ⟨before, next⟩ := Nat.exists_eq_succ_of_ne_zero positive
    have inside := contains_shortest positive tie
    rw [contains_iff some_fraction next, zero] at inside
    have middle : 0 < format.middle before :=
      (Nat.zero_le _).trans_lt (Nat.lt_add_left _ (FloatFormat.units_strictMono before.succ_pos))
    have low : (0 : ℚ) < format.middle before * 2 ^ (format.leastExponent - 1) :=
      mul_pos (Nat.cast_pos.mpr middle) (by positivity)
    split at inside
    · exact absurd low inside.1.not_gt
    · exact absurd low inside.1.not_gt
  · intro zero
    unfold shortest Decimal.value
    rw [if_pos zero, Nat.cast_zero, zero_mul]

/-- The shortest decimal of a number stands for no other magnitude, however ties are resolved. -/
theorem magnitude_eq_of_value_shortest (some_fraction : 0 < format.fractionBits) {tie tie' : Tie}
    (same : (x.shortest tie).value = (y.shortest tie').value) : x.magnitude = y.magnitude := by
  by_cases zero : x.magnitude = 0
  · rw [(value_shortest_eq_zero_iff some_fraction).mpr zero] at same
    rw [zero, (value_shortest_eq_zero_iff some_fraction).mp same.symm]
  · have positive : y.magnitude ≠ 0 := fun zero' => by
      rw [(value_shortest_eq_zero_iff some_fraction).mpr zero'] at same
      exact zero ((value_shortest_eq_zero_iff some_fraction).mp same)
    have inside := contains_shortest positive tie'
    rw [← same] at inside
    exact magnitude_eq_of_contains some_fraction zero positive (contains_shortest zero tie) inside

end Binary

end Covenant
