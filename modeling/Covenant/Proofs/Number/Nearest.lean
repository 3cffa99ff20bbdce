import Covenant.Proofs.Number.Rounding
import Covenant.Proofs.Number.Value

/-!
# Nearest numbers

A quantity rounds to a magnitude if it is between the middles around it (`FloatFormat.Rounds`). No
other magnitude with a sign is nearer to the quantity then (`FloatFormat.Rounds.nearest`), so that
magnitude makes the nearest number of the format (`Binary.isNearest_ofParts`). What is between two
middles determines the magnitude, and larger quantities have larger ones
(`FloatFormat.Rounds.mono`).
-/
namespace Covenant

namespace FloatFormat

variable {format : FloatFormat} {first second quantity : ℚ} {magnitude other : Nat}

/-- A quantity, counted in smallest positive numbers, rounds to a magnitude if it is between the
middles around it, and is one of them only if the magnitude is even. -/
structure Rounds (format : FloatFormat) (quantity : ℚ) (magnitude : Nat) : Prop where
  /-- The quantity is not below the middle to the magnitude before. -/
  low : ∀ before, magnitude = before + 1 → (format.middle before : ℚ) ≤ 2 * quantity
  /-- It is that middle only if the magnitude is even. -/
  low_even : ∀ before, magnitude = before + 1 → (format.middle before : ℚ) = 2 * quantity →
    magnitude % 2 = 0
  /-- The quantity is not above the middle to the next magnitude. -/
  high : 2 * quantity ≤ format.middle magnitude
  /-- It is that middle only if the magnitude is even. -/
  high_even : 2 * quantity = format.middle magnitude → magnitude % 2 = 0

/-- A middle is between the two magnitudes. -/
theorem units_lt_middle (format : FloatFormat) (before : Nat) :
    2 * format.units before < format.middle before ∧
      format.middle before < 2 * format.units (before + 1) := by
  have ascends : format.units before < format.units (before + 1) :=
    units_strictMono (Nat.lt_succ_self before)
  unfold middle
  omega

namespace Rounds

/-- What a magnitude is worth rounds to it. -/
theorem units (format : FloatFormat) (magnitude : Nat) :
    format.Rounds (format.units magnitude) magnitude := by
  have high : (2 : ℚ) * format.units magnitude < format.middle magnitude := by
    exact_mod_cast (format.units_lt_middle magnitude).1
  have low (before : Nat) (next : magnitude = before + 1) :
      (format.middle before : ℚ) < 2 * format.units magnitude := by
    rw [next]
    exact_mod_cast (format.units_lt_middle before).2
  exact ⟨fun before next => (low before next).le,
    fun before next same => absurd same (low before next).ne, high.le,
    fun same => absurd same high.ne⟩

/-- A larger quantity rounds to no smaller magnitude. -/
theorem mono (rounds : format.Rounds first magnitude) (rounds' : format.Rounds second other)
    (ordered : first ≤ second) : magnitude ≤ other := by
  by_contra above
  obtain ⟨before, next⟩ := Nat.exists_eq_succ_of_ne_zero (n := magnitude) (by omega)
  have low := rounds.low before next
  have high := rounds'.high
  have middles : format.middle other ≤ format.middle before :=
    middle_strictMono.monotone (by omega)
  have middles' : (format.middle other : ℚ) ≤ format.middle before := Nat.cast_le.mpr middles
  -- Nothing is left between the two middles, so they are one, and both magnitudes are even.
  have same : format.middle other = format.middle before := by
    have squeezed : (format.middle other : ℚ) = format.middle before := by linarith
    exact_mod_cast squeezed
  have adjacent : other = before := middle_strictMono.injective same
  have even := rounds.low_even before next (by linarith)
  have even' := rounds'.high_even (by linarith)
  omega

/-- A quantity rounds to one magnitude. -/
theorem unique (rounds : format.Rounds quantity magnitude)
    (rounds' : format.Rounds quantity other) : magnitude = other :=
  Nat.le_antisymm (rounds.mono rounds' le_rfl) (rounds'.mono rounds le_rfl)

end Rounds

/-- Of two rationals, the one on whose side of the middle a quantity is is nearer to it. -/
theorem nearer_of_middle (quantity : ℚ) {near far : ℚ} (apart : far < near)
    (side : far + near ≤ 2 * quantity) :
    |near - quantity| ≤ |far - quantity| ∧
      (|near - quantity| = |far - quantity| → far + near = 2 * quantity) := by
  have distance : |far - quantity| = quantity - far := by
    rw [abs_of_neg (by linarith)]
    ring
  rw [distance]
  refine ⟨abs_le.mpr ⟨by linarith, by linarith⟩, fun same => ?_⟩
  rcases abs_choice (near - quantity) with sign | sign
  · linarith
  · linarith

section Neighbours

variable {candidate : ℚ} (signed : |candidate| = format.units other)
include signed

/-- What is below the worth of a magnitude is, if it is worth a magnitude with a sign, not above the
worth of the magnitude before. -/
theorem le_units_of_lt (below : candidate < format.units (magnitude + 1)) :
    candidate ≤ format.units magnitude := by
  rcases Nat.lt_or_ge magnitude other with larger | smaller
  · -- The candidate has no smaller magnitude, so it is negative.
    have worth : (format.units (magnitude + 1) : ℚ) ≤ |candidate| := by
      rw [signed]
      exact_mod_cast units_strictMono.monotone larger
    have negative : candidate < 0 := lt_of_not_ge fun nonneg => by
      rw [abs_of_nonneg nonneg] at worth
      exact absurd below worth.not_gt
    exact negative.le.trans (Nat.cast_nonneg _)
  · refine (le_abs_self candidate).trans ?_
    rw [signed]
    exact_mod_cast units_strictMono.monotone smaller

/-- What is above the worth of a magnitude is, if it is worth a magnitude with a sign, not below the
worth of the next magnitude. -/
theorem units_succ_le_of_lt (above : (format.units magnitude : ℚ) < candidate) :
    (format.units (magnitude + 1) : ℚ) ≤ candidate := by
  have positive : |candidate| = candidate :=
    abs_of_pos ((Nat.cast_nonneg _).trans_lt above)
  rw [← positive, signed] at above ⊢
  have larger : magnitude < other := units_strictMono.lt_iff_lt.mp (by exact_mod_cast above)
  exact_mod_cast units_strictMono.monotone larger

/-- No magnitude with a sign is nearer to a quantity than the magnitude that it rounds to, and
another one is as near only if that magnitude is even. -/
theorem Rounds.nearest (rounds : format.Rounds quantity magnitude) (nonneg : 0 ≤ quantity) :
    |format.units magnitude - quantity| ≤ |candidate - quantity| ∧
      (|format.units magnitude - quantity| = |candidate - quantity| →
        candidate = format.units magnitude ∨ magnitude % 2 = 0) := by
  rcases lt_trichotomy candidate (format.units magnitude) with below | same | above
  · cases magnitude with
    | zero =>
      rw [units_zero, Nat.cast_zero] at below ⊢
      obtain ⟨nearer, tie⟩ := nearer_of_middle quantity below (by linarith)
      exact ⟨nearer, fun _ => .inr rfl⟩
    | succ before =>
      have at_most := le_units_of_lt signed below
      have low := rounds.low before rfl
      have low_even := rounds.low_even before rfl
      unfold middle at low low_even
      rw [Nat.cast_add] at low low_even
      obtain ⟨nearer, tie⟩ := nearer_of_middle quantity below (by linarith)
      refine ⟨nearer, fun equal => .inr (low_even ?_)⟩
      have middle := tie equal
      linarith
  · rw [same]
    exact ⟨le_rfl, fun _ => .inl rfl⟩
  · have at_least := units_succ_le_of_lt signed above
    have high := rounds.high
    have high_even := rounds.high_even
    unfold middle at high high_even
    rw [Nat.cast_add] at high high_even
    obtain ⟨nearer, tie⟩ := nearer_of_middle (-quantity) (neg_lt_neg above) (by linarith)
    have mirrored (point : ℚ) : |-point - -quantity| = |point - quantity| := by
      rw [← neg_sub', abs_neg]
    rw [mirrored, mirrored] at nearer tie
    refine ⟨nearer, fun equal => .inr (high_even ?_)⟩
    have middle := tie equal
    linarith

end Neighbours

end FloatFormat

namespace Binary

variable {format : FloatFormat}

/-- A finite number is as near to a rational as any, and of two equally near ones it is the one
with the even significand. -/
structure IsNearest (x : Binary format) (quantity : ℚ) : Prop where
  /-- The number is finite. -/
  finite : x.isFinite = true
  /-- No finite number is nearer. -/
  nearest : ∀ y : Binary format, y.isFinite = true →
    |x.rational - quantity| ≤ |y.rational - quantity|
  /-- Another value is as near only if the significand is even. -/
  even : ∀ y : Binary format, y.isFinite = true →
    |x.rational - quantity| = |y.rational - quantity| →
      y.rational = x.rational ∨ x.significand % 2 = 0

/-- Without its sign a finite number is worth as many of the smallest positive number as its
magnitude. -/
theorem abs_rational (x : Binary format) :
    |x.rational| = format.units x.magnitude * 2 ^ format.leastExponent := by
  have scale : (0 : ℚ) < 2 ^ format.leastExponent := by positivity
  rw [rational_eq_units, abs_mul, abs_mul, abs_of_pos scale, Nat.abs_cast]
  cases x.isNegative <;> simp

/-- The number with the other sign is the nearest one to the opposite rational. -/
theorem IsNearest.neg {x : Binary format} {quantity : ℚ} (nearest : x.IsNearest quantity)
    (some_fraction : 0 < format.fractionBits) : x.neg.IsNearest (-quantity) := by
  have finite (y : Binary format) : y.neg.isFinite = y.isFinite := by
    unfold isFinite
    rw [magnitude_neg]
  have mirrored (y : Binary format) : |y.neg.rational - -quantity| = |y.rational - quantity| := by
    rw [rational_neg, ← neg_sub', abs_neg]
  have mirrored' (y : Binary format) : |y.rational - -quantity| = |y.neg.rational - quantity| := by
    rw [← mirrored, rational_neg, rational_neg, neg_neg]
  refine ⟨(finite x).trans nearest.finite, fun y finite' => ?_, fun y finite' equal => ?_⟩
  · rw [mirrored, mirrored']
    exact nearest.nearest y.neg ((finite y).trans finite')
  · rw [mirrored, mirrored'] at equal
    refine (nearest.even y.neg ((finite y).trans finite') equal).imp (fun same => ?_) fun even => ?_
    · rw [rational_neg, ← same, rational_neg, neg_neg]
    · rwa [significand_mod_two some_fraction, magnitude_neg, ← significand_mod_two some_fraction]

/-- A finite magnitude that a quantity rounds to makes the nearest number to it. -/
theorem isNearest_ofMagnitude (some_fraction : 0 < format.fractionBits) {magnitude : Nat}
    (finite : magnitude < format.infinityBits) {quantity : ℚ} (nonneg : 0 ≤ quantity)
    (rounds : format.Rounds (quantity / 2 ^ format.leastExponent) magnitude) :
    (ofParts false magnitude : Binary format).IsNearest quantity := by
  have bound : magnitude < 2 ^ (format.width - 1) := finite.trans format.infinityBits_lt
  have same_magnitude : (ofParts false magnitude : Binary format).magnitude = magnitude :=
    magnitude_ofParts false bound
  have scale : (0 : ℚ) < 2 ^ format.leastExponent := by positivity
  have worth : (ofParts false magnitude : Binary format).rational / 2 ^ format.leastExponent =
      format.units magnitude := by
    rw [rational_eq_units, mul_div_cancel_right₀ _ scale.ne', isNegative_ofParts false bound,
      same_magnitude, if_neg Bool.false_ne_true, one_mul]
  have distance (y : Binary format) : |y.rational - quantity| =
      |y.rational / 2 ^ format.leastExponent - quantity / 2 ^ format.leastExponent| *
        2 ^ format.leastExponent := by
    rw [← sub_div, abs_div, abs_of_pos scale, div_mul_cancel₀ _ scale.ne']
  have signed (y : Binary format) :
      |y.rational / 2 ^ format.leastExponent| = format.units y.magnitude := by
    rw [abs_div, abs_rational, abs_of_pos scale, mul_div_cancel_right₀ _ scale.ne']
  have nearest (y : Binary format) := rounds.nearest (signed y) (div_nonneg nonneg scale.le)
  refine ⟨?_, fun y _ => ?_, fun y _ equal => ?_⟩
  · unfold isFinite
    rw [same_magnitude]
    exact decide_eq_true finite
  · rw [distance, distance, worth]
    exact mul_le_mul_of_nonneg_right (nearest y).1 scale.le
  · rw [distance, distance, worth] at equal
    refine ((nearest y).2 (mul_right_cancel₀ scale.ne' equal)).imp (fun same => ?_) fun even => ?_
    · exact (div_left_inj' scale.ne').mp (same.trans worth.symm)
    · rw [significand_mod_two some_fraction, same_magnitude, even]

/-- With a sign, it makes the nearest number to the quantity with that sign. -/
theorem isNearest_ofParts (some_fraction : 0 < format.fractionBits) (negative : Bool)
    {magnitude : Nat} (finite : magnitude < format.infinityBits) {quantity : ℚ}
    (nonneg : 0 ≤ quantity)
    (rounds : format.Rounds (quantity / 2 ^ format.leastExponent) magnitude) :
    (ofParts negative magnitude : Binary format).IsNearest
      ((if negative then -1 else 1) * quantity) := by
  have unsigned := isNearest_ofMagnitude some_fraction finite nonneg rounds
  cases negative with
  | false => rwa [if_neg Bool.false_ne_true, one_mul]
  | true =>
    have bound : magnitude < 2 ^ (format.width - 1) := finite.trans format.infinityBits_lt
    have opposite : (ofParts false magnitude : Binary format).neg = ofParts true magnitude := by
      unfold neg
      rw [isNegative_ofParts false bound, magnitude_ofParts false bound, Bool.not_false]
    rw [if_pos rfl, neg_one_mul, ← opposite]
    exact unsigned.neg some_fraction

end Binary

end Covenant
