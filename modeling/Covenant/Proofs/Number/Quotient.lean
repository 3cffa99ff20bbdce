import Covenant.Proofs.Number.Nearest
import Mathlib.Data.Int.Log
import Mathlib.Data.Rat.Floor
import Mathlib.Tactic.FieldSimp

/-!
# Rounding quotients

A number that is computed from a quotient is the nearest one of its format
(`Binary.isNearest_ofQuotient`). One scale is chosen for the quotient (`Binary.scaleOf_spec`), at
which it is rounded to an integer (`Binary.isNearestInteger_roundQuotient`). The integer at its
scale is a magnitude even where rounding carries into the exponent (`FloatFormat.units_scaled`), and
the middles around that magnitude are the halves around the integer
(`FloatFormat.IsNearestInteger.rounds`). A quotient that is a value of the format already is not
changed (`Binary.ofQuotient_eq_ofParts`).
-/
namespace Covenant

namespace FloatFormat

variable {format : FloatFormat}

/-- An integer at a scale is a magnitude, even if it has one bit more than the format keeps. -/
theorem units_scaled {scale integer : Nat}
    (full : scale = 0 ∨ 2 ^ format.fractionBits ≤ integer)
    (bound : integer ≤ 2 ^ (format.fractionBits + 1)) :
    format.units (scale * 2 ^ format.fractionBits + integer) = integer * 2 ^ scale := by
  rw [Nat.pow_succ'] at bound
  rcases Nat.lt_or_ge integer (2 ^ format.fractionBits) with small | large
  · obtain rfl : scale = 0 := full.resolve_right small.not_ge
    rw [units_of_block small, if_pos rfl]
  · obtain ⟨fraction, rfl⟩ := Nat.exists_eq_add_of_le large
    rcases Nat.lt_or_eq_of_le (show fraction ≤ 2 ^ format.fractionBits by omega) with below | carry
    · have parts : scale * 2 ^ format.fractionBits + (2 ^ format.fractionBits + fraction) =
          (scale + 1) * 2 ^ format.fractionBits + fraction := by ring
      rw [parts, units_of_block below, if_neg (Nat.succ_ne_zero _), Nat.add_sub_cancel]
    · have parts : scale * 2 ^ format.fractionBits + (2 ^ format.fractionBits + fraction) =
          (scale + 2) * 2 ^ format.fractionBits + 0 := by
        rw [carry]
        ring
      rw [parts, units_of_block (Nat.two_pow_pos _), if_neg (Nat.succ_ne_zero _), carry,
        show scale + 2 - 1 = scale + 1 by omega]
      ring

/-- The middle after an integer at a scale is the half after it. -/
theorem middle_scaled {scale integer : Nat}
    (full : scale = 0 ∨ 2 ^ format.fractionBits ≤ integer)
    (bound : integer < 2 ^ (format.fractionBits + 1)) :
    format.middle (scale * 2 ^ format.fractionBits + integer) = (2 * integer + 1) * 2 ^ scale := by
  unfold middle
  rw [Nat.add_assoc, units_scaled full bound.le,
    units_scaled (full.imp_right Nat.le_succ_of_le) bound, Nat.succ_eq_add_one]
  ring

/-- An integer is nearest to a quotient, and a tie makes it even. -/
structure IsNearestInteger (quotient : ℚ) (integer : Nat) : Prop where
  /-- The integer is at most half above the quotient. -/
  low : 2 * (integer : ℚ) ≤ 2 * quotient + 1
  /-- It is half above only if it is even. -/
  low_even : 2 * (integer : ℚ) = 2 * quotient + 1 → integer % 2 = 0
  /-- The integer is at most half below the quotient. -/
  high : 2 * quotient ≤ 2 * integer + 1
  /-- It is half below only if it is even. -/
  high_even : 2 * quotient = 2 * integer + 1 → integer % 2 = 0

namespace IsNearestInteger

variable {quotient : ℚ} {scale integer : Nat} (nearest : IsNearestInteger quotient integer)
include nearest

/-- A quotient below an integer is nearest to none above it. -/
theorem le_of_lt {limit : Nat} (below : quotient < limit) : integer ≤ limit := by
  have less : (integer : ℚ) < (limit + 1 : Nat) := by
    push_cast
    linarith [nearest.low]
  exact Nat.lt_succ_iff.mp (Nat.cast_lt.mp less)

/-- A quotient from an integer on is nearest to none below it. -/
theorem le_of_le {limit : Nat} (above : limit ≤ quotient) : limit ≤ integer := by
  have less : (limit : ℚ) < (integer + 1 : Nat) := by
    push_cast
    linarith [nearest.high]
  exact Nat.lt_succ_iff.mp (Nat.cast_lt.mp less)

variable (full : scale = 0 ∨ ((2 ^ format.fractionBits : Nat) : ℚ) ≤ quotient)
  (bound : quotient < (2 ^ (format.fractionBits + 1) : Nat))
include full bound

/-- The magnitude of the integer at its scale is worth the integer. -/
theorem units_eq : (format.units (scale * 2 ^ format.fractionBits + integer) : ℚ) =
    integer * 2 ^ scale := by
  rw [units_scaled (full.imp_right nearest.le_of_le) (nearest.le_of_lt bound)]
  push_cast
  rfl

/-- At its scale, the quotient is not below the middle to the magnitude before. -/
theorem middle_le {before : Nat}
    (next : scale * 2 ^ format.fractionBits + integer = before + 1) :
    (format.middle before : ℚ) ≤ 2 * (quotient * 2 ^ scale) ∧
      ((format.middle before : ℚ) = 2 * (quotient * 2 ^ scale) → integer % 2 = 0) := by
  have positive : (0 : ℚ) < 2 ^ scale := by positivity
  by_cases starts : scale = 0 ∨ 2 ^ format.fractionBits < integer
  · -- The magnitude before is the integer before at the same scale.
    obtain ⟨fewer, rfl⟩ : ∃ fewer, integer = fewer + 1 := by
      refine Nat.exists_eq_succ_of_ne_zero fun zero => ?_
      rcases starts with none | large
      · rw [none, zero] at next
        omega
      · exact Nat.not_lt_zero _ (zero ▸ large)
    have middle : (format.middle before : ℚ) = (2 * (fewer + 1 : Nat) - 1) * 2 ^ scale := by
      rw [show before = scale * 2 ^ format.fractionBits + fewer by omega,
        middle_scaled (starts.imp_right Nat.lt_succ_iff.mp) (nearest.le_of_lt bound)]
      push_cast
      ring
    rw [middle, ← mul_assoc]
    refine ⟨mul_le_mul_of_nonneg_right (by linarith [nearest.low]) positive.le, fun same => ?_⟩
    have same := mul_right_cancel₀ positive.ne' same
    exact nearest.low_even (by linarith)
  · -- An exponent begins here, and the quotient is not below it.
    obtain ⟨some_scale, start⟩ := not_or.mp starts
    have at_least : (integer : ℚ) ≤ quotient :=
      (Nat.cast_le.mpr (Nat.not_lt.mp start)).trans (full.resolve_left some_scale)
    have below : (format.middle before : ℚ) < 2 * (quotient * 2 ^ scale) := by
      have middle : (format.middle before : ℚ) < 2 * (integer * 2 ^ scale) := by
        rw [← nearest.units_eq full bound, next]
        exact_mod_cast (format.units_lt_middle before).2
      have scaled := mul_le_mul_of_nonneg_right at_least positive.le
      linarith
    exact ⟨below.le, fun same => absurd same below.ne⟩

/-- At its scale, the quotient is not above the middle to the next magnitude. -/
theorem le_middle : 2 * (quotient * 2 ^ scale) ≤
    format.middle (scale * 2 ^ format.fractionBits + integer) ∧
      (2 * (quotient * 2 ^ scale) = format.middle (scale * 2 ^ format.fractionBits + integer) →
        integer % 2 = 0) := by
  have positive : (0 : ℚ) < 2 ^ scale := by positivity
  rcases Nat.lt_or_eq_of_le (nearest.le_of_lt bound) with small | carry
  · -- The next magnitude is the next integer at the same scale.
    have middle : (format.middle (scale * 2 ^ format.fractionBits + integer) : ℚ) =
        (2 * integer + 1) * 2 ^ scale := by
      rw [middle_scaled (full.imp_right nearest.le_of_le) small]
      push_cast
      rfl
    rw [middle, ← mul_assoc]
    refine ⟨mul_le_mul_of_nonneg_right nearest.high positive.le, fun same => ?_⟩
    exact nearest.high_even (mul_right_cancel₀ positive.ne' same)
  · -- Rounding carried, so the quotient is below the integer.
    have below : 2 * (quotient * 2 ^ scale) <
        format.middle (scale * 2 ^ format.fractionBits + integer) := by
      have above : 2 * ((integer : ℚ) * 2 ^ scale) <
          format.middle (scale * 2 ^ format.fractionBits + integer) := by
        rw [← nearest.units_eq full bound]
        exact_mod_cast (format.units_lt_middle _).1
      have scaled : quotient * 2 ^ scale < integer * 2 ^ scale :=
        mul_lt_mul_of_pos_right (carry ▸ bound) positive
      linarith
    exact ⟨below.le, fun same => absurd same below.ne⟩

/-- A quotient that is nearest to an integer at a scale rounds to the magnitude of that integer. -/
theorem rounds (some_fraction : 0 < format.fractionBits) :
    format.Rounds (quotient * 2 ^ scale) (scale * 2 ^ format.fractionBits + integer) := by
  have even : 2 ∣ scale * 2 ^ format.fractionBits :=
    Dvd.dvd.mul_left (Dvd.dvd.pow (dvd_refl 2) some_fraction.ne') scale
  have parity : (scale * 2 ^ format.fractionBits + integer) % 2 = integer % 2 := by
    omega
  obtain ⟨high, high_even⟩ := nearest.le_middle full bound
  exact ⟨fun before next => (nearest.middle_le full bound next).1,
    fun before next same => parity.trans ((nearest.middle_le full bound next).2 same), high,
    fun same => parity.trans (high_even same)⟩

end IsNearestInteger

end FloatFormat

namespace Binary

variable {format : FloatFormat} {numerator denominator : Nat}

open FloatFormat (IsNearestInteger)

/-- A quotient of integers is rounded to the nearest integer. -/
theorem isNearestInteger_roundQuotient (numerator : Nat) (positive : 0 < denominator) :
    IsNearestInteger (numerator / denominator) (roundQuotient numerator denominator) := by
  have positive' : (0 : ℚ) < denominator := Nat.cast_pos.mpr positive
  obtain ⟨whole, whole_eq⟩ : ∃ whole, whole = numerator / denominator := ⟨_, rfl⟩
  obtain ⟨rest, rest_eq⟩ : ∃ rest, rest = numerator % denominator := ⟨_, rfl⟩
  have parts : (numerator / denominator : ℚ) = whole + rest / denominator := by
    have sum : (numerator : ℚ) = denominator * whole + rest := by
      rw [whole_eq, rest_eq]
      exact_mod_cast (Nat.div_add_mod numerator denominator).symm
    rw [sum, add_div, mul_div_cancel_left₀ _ positive'.ne']
  obtain ⟨excess, excess_eq⟩ : ∃ excess : ℚ, excess = rest / denominator := ⟨_, rfl⟩
  have proper : 0 ≤ excess ∧ excess < 1 := by
    rw [excess_eq, div_lt_one positive', rest_eq]
    exact ⟨by positivity, Nat.cast_lt.mpr (Nat.mod_lt numerator positive)⟩
  have half : (2 * rest < denominator ↔ 2 * excess < 1) ∧
      (2 * rest = denominator ↔ 2 * excess = 1) := by
    rw [excess_eq, ← mul_div_assoc, div_lt_one positive', div_eq_one_iff_eq positive'.ne']
    exact ⟨by exact_mod_cast Iff.rfl, by exact_mod_cast Iff.rfl⟩
  have next : ((whole + 1 : Nat) : ℚ) = whole + 1 := Nat.cast_succ whole
  rw [parts, ← excess_eq]
  unfold roundQuotient
  dsimp only
  rw [← whole_eq, ← rest_eq]
  by_cases less : 2 * rest < denominator
  · rw [if_pos less]
    have less := half.1.mp less
    exact ⟨by linarith, fun same => by linarith, by linarith, fun same => by linarith⟩
  · rw [if_neg less]
    by_cases tie : 2 * rest = denominator
    · rw [if_pos tie]
      have tie := half.2.mp tie
      rcases Nat.mod_two_eq_zero_or_one whole with even | odd
      · rw [even, Nat.add_zero]
        exact ⟨by linarith, fun _ => even, by linarith, fun _ => even⟩
      · rw [odd]
        exact ⟨by linarith, fun _ => by omega, by linarith, fun _ => by omega⟩
    · rw [if_neg tie]
      have more : 1 < 2 * excess :=
        lt_of_le_of_ne (not_lt.mp (half.1.not.mp less)) (Ne.symm (half.2.not.mp tie))
      exact ⟨by linarith, fun same => by linarith, by linarith, fun same => by linarith⟩

/-- A quotient is compared with a power of two as an integer. -/
theorem quotient_lt_zpow_iff (numerator : Nat) (positive : 0 < denominator) (exponent : ℤ) :
    (numerator / denominator : ℚ) < 2 ^ exponent ↔
      numerator * 2 ^ (-exponent).toNat < denominator * 2 ^ exponent.toNat := by
  have scale : (0 : ℚ) < 2 ^ (-exponent).toNat := by positivity
  rw [div_lt_iff₀ (Nat.cast_pos.mpr positive), ← mul_lt_mul_iff_of_pos_right scale,
    mul_right_comm, RoundingInterval.zpow_mul_pow_toNat two_pos, ← @Nat.cast_lt ℚ]
  push_cast
  rw [mul_comm (denominator : ℚ)]

/-- The logarithms of both sides say where a quotient begins, or one place above. -/
theorem log_quotient_bounds (some_quotient : 0 < numerator) (positive : 0 < denominator) :
    (numerator.log2 : ℤ) - denominator.log2 - 1 ≤ Int.log 2 (numerator / denominator : ℚ) ∧
      Int.log 2 (numerator / denominator : ℚ) ≤ (numerator.log2 : ℤ) - denominator.log2 := by
  have positive' : (0 : ℚ) < denominator := Nat.cast_pos.mpr positive
  have quotient_pos : (0 : ℚ) < numerator / denominator :=
    div_pos (Nat.cast_pos.mpr some_quotient) positive'
  have below : (numerator : ℚ) < 2 ^ (numerator.log2 + 1) := by
    exact_mod_cast Nat.lt_log2_self
  have above : (2 : ℚ) ^ numerator.log2 ≤ numerator := by
    exact_mod_cast Nat.log2_self_le some_quotient.ne'
  have below' : (denominator : ℚ) < 2 ^ (denominator.log2 + 1) := by
    exact_mod_cast Nat.lt_log2_self
  have above' : (2 : ℚ) ^ denominator.log2 ≤ denominator := by
    exact_mod_cast Nat.log2_self_le positive.ne'
  constructor
  · rw [← Int.zpow_le_iff_le_log one_lt_two quotient_pos, Nat.cast_ofNat, le_div_iff₀ positive']
    calc (2 : ℚ) ^ ((numerator.log2 : ℤ) - denominator.log2 - 1) * denominator
        ≤ 2 ^ ((numerator.log2 : ℤ) - denominator.log2 - 1) * 2 ^ (denominator.log2 + 1) :=
          mul_le_mul_of_nonneg_left below'.le (by positivity)
      _ = 2 ^ numerator.log2 := by
        rw [← zpow_natCast, ← zpow_natCast, ← zpow_add₀ two_ne_zero]
        congr 1
        omega
      _ ≤ numerator := above
  · rw [← Int.lt_add_one_iff, ← Int.lt_zpow_iff_log_lt one_lt_two quotient_pos, Nat.cast_ofNat,
      div_lt_iff₀ positive']
    calc (numerator : ℚ) < 2 ^ (numerator.log2 + 1) := below
      _ = 2 ^ ((numerator.log2 : ℤ) - denominator.log2 + 1) * 2 ^ denominator.log2 := by
        rw [← zpow_natCast, ← zpow_natCast, ← zpow_add₀ two_ne_zero]
        congr 1
        omega
      _ ≤ 2 ^ ((numerator.log2 : ℤ) - denominator.log2 + 1) * denominator :=
        mul_le_mul_of_nonneg_left above' (by positivity)

/-- The scale counts from the place where a quotient begins. -/
theorem scaleOf_eq (format : FloatFormat) (some_quotient : 0 < numerator)
    (positive : 0 < denominator) : scaleOf format numerator denominator =
      max (Int.log 2 (numerator / denominator : ℚ) - format.fractionBits) format.leastExponent := by
  have quotient_pos : (0 : ℚ) < numerator / denominator :=
    div_pos (Nat.cast_pos.mpr some_quotient) (Nat.cast_pos.mpr positive)
  obtain ⟨low, high⟩ := log_quotient_bounds some_quotient positive
  unfold scaleOf
  dsimp only
  generalize (numerator.log2 : ℤ) - denominator.log2 = estimate at low high ⊢
  have compared : (if 0 ≤ estimate then numerator < denominator * Nat.pow 2 estimate.toNat
      else numerator * Nat.pow 2 (-estimate).toNat < denominator) ↔
      Int.log 2 (numerator / denominator : ℚ) < estimate := by
    rw [← Int.lt_zpow_iff_log_lt one_lt_two quotient_pos, Nat.cast_ofNat,
      quotient_lt_zpow_iff numerator positive]
    split
    · rw [show (-estimate).toNat = 0 by omega, pow_zero, mul_one]
      rfl
    · rw [show estimate.toNat = 0 by omega, pow_zero, mul_one]
      rfl
  have first : (if Int.log 2 (numerator / denominator : ℚ) < estimate then estimate - 1
      else estimate) = Int.log 2 (numerator / denominator : ℚ) := by
    split <;> omega
  rw [if_congr compared rfl rfl, first]

/-- The scale of a positive quotient is not below the least one, leaves no more bits than the
format keeps, and no fewer if it is above the least one. -/
theorem scaleOf_spec (format : FloatFormat) (some_quotient : 0 < numerator)
    (positive : 0 < denominator) :
    format.leastExponent ≤ scaleOf format numerator denominator ∧
      (numerator / denominator : ℚ) <
        2 ^ (scaleOf format numerator denominator + format.fractionBits + 1) ∧
      (scaleOf format numerator denominator = format.leastExponent ∨
        (2 : ℚ) ^ (scaleOf format numerator denominator + format.fractionBits) ≤
          numerator / denominator) := by
  have quotient_pos : (0 : ℚ) < numerator / denominator :=
    div_pos (Nat.cast_pos.mpr some_quotient) (Nat.cast_pos.mpr positive)
  have begins : (2 : ℚ) ^ Int.log 2 (numerator / denominator : ℚ) ≤ numerator / denominator := by
    exact_mod_cast Int.zpow_log_le_self one_lt_two quotient_pos
  have ends : (numerator / denominator : ℚ) <
      2 ^ (Int.log 2 (numerator / denominator : ℚ) + 1) := by
    exact_mod_cast Int.lt_zpow_succ_log_self one_lt_two (numerator / denominator : ℚ)
  rw [scaleOf_eq format some_quotient positive]
  refine ⟨le_max_right _ _, ends.trans_le (zpow_le_zpow_right₀ one_le_two (by omega)), ?_⟩
  rcases le_total (Int.log 2 (numerator / denominator : ℚ) - format.fractionBits)
    format.leastExponent with small | large
  · exact .inl (max_eq_right small)
  · rw [max_eq_left large, Int.sub_add_cancel]
    exact .inr begins

/-- A quotient at a scale is a quotient of integers. -/
theorem div_zpow_eq (numerator denominator : Nat) (scale : ℤ) :
    ((numerator * 2 ^ (-scale).toNat : Nat) : ℚ) / (denominator * 2 ^ scale.toNat : Nat) =
      numerator / denominator / 2 ^ scale := by
  push_cast
  rw [← RoundingInterval.zpow_mul_pow_toNat two_pos scale, ← mul_assoc,
    mul_div_mul_right _ _ (by positivity), div_div]

/-- A quotient is rounded at its scale, which moves one of its sides. -/
theorem ofQuotient_eq (negative : Bool) (some_quotient : numerator ≠ 0) :
    (ofQuotient negative numerator denominator : Binary format) = ofParts negative
      (min ((scaleOf format numerator denominator - format.leastExponent).toNat *
          2 ^ format.fractionBits +
        roundQuotient (numerator * 2 ^ (-scaleOf format numerator denominator).toNat)
          (denominator * 2 ^ (scaleOf format numerator denominator).toNat))
        format.infinityBits) := by
  unfold ofQuotient
  rw [if_neg some_quotient]
  dsimp only
  generalize scaleOf format numerator denominator = scale
  split
  · rw [show (-scale).toNat = 0 by omega, pow_zero, mul_one]
    rfl
  · rw [show scale.toNat = 0 by omega, pow_zero, mul_one]
    rfl

/-- A quotient is rounded to a magnitude, or to an infinity if it is past all of them. -/
theorem exists_rounds_ofQuotient (some_fraction : 0 < format.fractionBits) (negative : Bool)
    (numerator : Nat) (positive : 0 < denominator) : ∃ magnitude,
    format.Rounds (numerator / denominator / 2 ^ format.leastExponent) magnitude ∧
      (ofQuotient negative numerator denominator : Binary format) =
        ofParts negative (min magnitude format.infinityBits) := by
  rcases Nat.eq_zero_or_pos numerator with zero | some_quotient
  · refine ⟨0, ?_, ?_⟩
    · have nothing := FloatFormat.Rounds.units format 0
      rw [FloatFormat.units_zero, Nat.cast_zero] at nothing
      rwa [zero, Nat.cast_zero, zero_div, zero_div]
    · unfold ofQuotient
      rw [if_pos zero, Nat.zero_min]
  · refine ⟨_, ?_, ofQuotient_eq negative some_quotient.ne'⟩
    obtain ⟨least, bound, full⟩ := scaleOf_spec format some_quotient positive
    generalize scaleOf format numerator denominator = scale at least bound full ⊢
    have power : (0 : ℚ) < 2 ^ scale := by positivity
    have nearest := isNearestInteger_roundQuotient (numerator * 2 ^ (-scale).toNat)
      (Nat.mul_pos positive (Nat.two_pow_pos scale.toNat))
    rw [div_zpow_eq] at nearest
    have scaled : (numerator / denominator / 2 ^ scale : ℚ) *
        2 ^ (scale - format.leastExponent).toNat =
        numerator / denominator / 2 ^ format.leastExponent := by
      rw [← zpow_natCast, Int.toNat_of_nonneg (Int.sub_nonneg_of_le least), zpow_sub₀ two_ne_zero]
      field_simp
    rw [← scaled]
    refine nearest.rounds (full.imp (fun same => ?_) fun full => ?_) ?_ some_fraction
    · rw [same, sub_self, Int.toNat_zero]
    · rw [le_div_iff₀ power, Nat.cast_pow, Nat.cast_ofNat, ← zpow_natCast,
        ← zpow_add₀ two_ne_zero, add_comm]
      exact full
    · rw [div_lt_iff₀ power, Nat.cast_pow, Nat.cast_ofNat, ← zpow_natCast,
        ← zpow_add₀ two_ne_zero]
      refine bound.trans_eq (congrArg _ ?_)
      omega

section OfQuotient

variable (some_fraction : 0 < format.fractionBits) (negative : Bool) (positive : 0 < denominator)
include some_fraction positive

/-- A quotient that is not past a finite magnitude becomes the nearest number to it. -/
theorem isNearest_ofQuotient {limit : Nat} (finite : limit < format.infinityBits)
    (bound : (numerator / denominator : ℚ) ≤ format.units limit * 2 ^ format.leastExponent) :
    (ofQuotient negative numerator denominator : Binary format).IsNearest
      ((if negative then -1 else 1) * (numerator / denominator)) := by
  obtain ⟨magnitude, rounds, rounded⟩ :=
    exists_rounds_ofQuotient some_fraction negative numerator positive
  have below : magnitude ≤ limit := rounds.mono (FloatFormat.Rounds.units format limit)
    ((div_le_iff₀ (by positivity)).mpr bound)
  rw [rounded, Nat.min_eq_left (below.trans finite.le)]
  exact isNearest_ofParts some_fraction negative (below.trans_lt finite) (by positivity) rounds

/-- A quotient that a finite magnitude is worth becomes the number of that magnitude. -/
theorem ofQuotient_eq_ofParts {magnitude : Nat} (finite : magnitude < format.infinityBits)
    (same : (numerator / denominator : ℚ) = format.units magnitude * 2 ^ format.leastExponent) :
    (ofQuotient negative numerator denominator : Binary format) = ofParts negative magnitude := by
  obtain ⟨other, rounds, rounded⟩ :=
    exists_rounds_ofQuotient some_fraction negative numerator positive
  rw [same, mul_div_cancel_right₀ _ (by positivity)] at rounds
  rw [rounded, rounds.unique (FloatFormat.Rounds.units format magnitude),
    Nat.min_eq_left finite.le]

end OfQuotient

end Binary

end Covenant
