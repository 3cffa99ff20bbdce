import Covenant.Proofs.Number.Magnitude
import Mathlib.Algebra.Order.Field.Power
import Mathlib.Data.Int.ConditionallyCompleteOrder
import Mathlib.Data.Rat.Cast.Order
import Mathlib.Order.WithBot
import Mathlib.Tactic.Linarith
import Mathlib.Tactic.Positivity

/-!
# Exact values

A number that is not a NaN stands for a rational or for an infinity (`Binary.extended?`). The
rationals of finite numbers (`Binary.rational`) are multiples of the smallest positive number, and
the key of a number says which (`Binary.rational_eq`). So the order of numbers is the order of what
they stand for (`Binary.le_iff`), though it compares nothing but bits.
-/
namespace Covenant

/-- A rational, or an infinity above or below all of them. -/
abbrev ExtendedRational := WithBot (WithTop ℚ)

namespace FloatFormat

variable {format : FloatFormat}

/-- No magnitude is worth nothing. -/
@[simp]
theorem units_zero : format.units 0 = 0 := by
  unfold units
  rw [Nat.zero_div, if_pos rfl, Nat.zero_mod, Nat.zero_mul]

/-- A magnitude is worth its significand, as often as its exponent says. -/
theorem units_of_block {exponent fraction : Nat} (bound : fraction < 2 ^ format.fractionBits) :
    format.units (exponent * 2 ^ format.fractionBits + fraction) =
      (if exponent = 0 then fraction else 2 ^ format.fractionBits + fraction) *
        2 ^ (exponent - 1) := by
  have quotient : (exponent * 2 ^ format.fractionBits + fraction) / 2 ^ format.fractionBits =
      exponent := by
    rw [Nat.add_comm, Nat.add_mul_div_right _ _ (Nat.two_pow_pos _), Nat.div_eq_of_lt bound,
      Nat.zero_add]
  have remainder : (exponent * 2 ^ format.fractionBits + fraction) % 2 ^ format.fractionBits =
      fraction := by
    rw [Nat.add_comm, Nat.add_mul_mod_self_right, Nat.mod_eq_of_lt bound]
  unfold units spacing
  rw [quotient, remainder]

/-- The worth of a key, which is a magnitude with a sign. -/
def signedUnits (format : FloatFormat) (key : ℤ) : ℤ :=
  if 0 ≤ key then format.units key.natAbs else -format.units key.natAbs

/-- A larger key is worth more. -/
theorem signedUnits_strictMono : StrictMono format.signedUnits := by
  intro first second below
  have ascends (m n : Nat) (less : m < n) : (format.units m : ℤ) < format.units n :=
    Nat.cast_lt.mpr (units_strictMono less)
  unfold signedUnits
  rcases le_or_gt 0 first with nonneg | negative
  · rw [if_pos nonneg, if_pos (by omega)]
    exact ascends _ _ (by omega)
  · rw [if_neg negative.not_ge]
    have some_worth : (0 : ℤ) < format.units first.natAbs := by
      have ascending := ascends 0 first.natAbs (by omega)
      rwa [units_zero] at ascending
    split
    · have nonneg : (0 : ℤ) ≤ format.units second.natAbs := Nat.cast_nonneg _
      omega
    · exact neg_lt_neg (ascends _ _ (by omega))

/-- Past the bits of infinities there is room for as many NaNs as there are fractions. -/
theorem infinityBits_add (format : FloatFormat) :
    format.infinityBits + 2 ^ format.fractionBits = 2 ^ (format.width - 1) := by
  have width : format.width - 1 = format.exponentBits + format.fractionBits := by
    unfold width
    omega
  change (2 ^ format.exponentBits - 1) * 2 ^ format.fractionBits + _ = _
  rw [width, Nat.pow_add, ← Nat.succ_mul, Nat.succ_eq_add_one,
    Nat.sub_add_cancel Nat.one_le_two_pow]

/-- Infinities have the bits below the sign. -/
theorem infinityBits_lt (format : FloatFormat) :
    format.infinityBits < 2 ^ (format.width - 1) := by
  rw [← infinityBits_add]
  exact Nat.lt_add_of_pos_right (Nat.two_pow_pos _)

end FloatFormat

namespace Binary

variable {format : FloatFormat} {x y : Binary format}

/-- What a finite number stands for. -/
def rational (x : Binary format) : ℚ :=
  (if x.isNegative then -1 else 1) * x.significand * 2 ^ x.exponent

/-- What a number stands for; a NaN stands for nothing. -/
def extended? (x : Binary format) : Option ExtendedRational :=
  match x.value with
  | .nan => none
  | .infinite negative => some (if negative then ⊥ else ⊤)
  | .finite negative significand exponent =>
    some (((if negative then -1 else 1) * significand * 2 ^ exponent : ℚ) : WithTop ℚ)

/-! ## What numbers stand for -/

/-- The bits of a NaN are no value. -/
theorem value_of_isNaN (nan : x.isNaN = true) : x.value = .nan := if_pos nan

/-- An infinity is no NaN. -/
theorem isNaN_of_isInfinite (infinite : x.isInfinite = true) : x.isNaN = false :=
  decide_eq_false (beq_iff_eq.mp infinite).not_gt

/-- The bits of an infinity are its sign. -/
theorem value_of_isInfinite (infinite : x.isInfinite = true) :
    x.value = .infinite x.isNegative := by
  unfold value
  rw [isNaN_of_isInfinite infinite, if_neg Bool.false_ne_true, if_pos infinite]

/-- A finite number is no NaN. -/
theorem isNaN_of_isFinite (finite : x.isFinite = true) : x.isNaN = false :=
  decide_eq_false (of_decide_eq_true finite).not_gt

/-- The bits of a finite number are a sign, a significand and an exponent. -/
theorem value_of_isFinite (finite : x.isFinite = true) :
    x.value = .finite x.isNegative x.significand x.exponent := by
  have bounded : ¬x.isInfinite = true := fun infinite =>
    (of_decide_eq_true finite).ne (beq_iff_eq.mp infinite)
  unfold value
  rw [isNaN_of_isFinite finite, if_neg Bool.false_ne_true, if_neg bounded]

/-- A NaN stands for nothing. -/
theorem extended?_of_isNaN (nan : x.isNaN = true) : x.extended? = none := by
  unfold extended?
  rw [value_of_isNaN nan]

/-- An infinity is beyond every rational. -/
theorem extended?_of_isInfinite (infinite : x.isInfinite = true) :
    x.extended? = some (if x.isNegative then ⊥ else ⊤) := by
  unfold extended?
  rw [value_of_isInfinite infinite]

/-- A finite number stands for a rational. -/
theorem extended?_of_isFinite (finite : x.isFinite = true) :
    x.extended? = some ((x.rational : WithTop ℚ) : ExtendedRational) := by
  unfold extended?
  rw [value_of_isFinite finite]
  rfl

/-- A number is a NaN, an infinity or finite. -/
theorem isNaN_or_isInfinite_or_isFinite (x : Binary format) :
    x.isNaN = true ∨ x.isInfinite = true ∨ x.isFinite = true := by
  rcases Nat.lt_trichotomy x.magnitude format.infinityBits with below | same | above
  · exact .inr (.inr (decide_eq_true below))
  · exact .inr (.inl (beq_iff_eq.mpr same))
  · exact .inl (decide_eq_true above)

/-- Only NaNs stand for nothing. -/
theorem extended?_eq_none_iff : x.extended? = none ↔ x.isNaN = true := by
  refine ⟨fun nothing => ?_, extended?_of_isNaN⟩
  rcases x.isNaN_or_isInfinite_or_isFinite with nan | infinite | finite
  · exact nan
  · rw [extended?_of_isInfinite infinite] at nothing
    cases nothing
  · rw [extended?_of_isFinite finite] at nothing
    cases nothing

/-- Only finite numbers stand for rationals. -/
theorem extended?_eq_coe_iff {quantity : ℚ} :
    x.extended? = some ((quantity : WithTop ℚ) : ExtendedRational) ↔
      x.isFinite = true ∧ x.rational = quantity := by
  rcases x.isNaN_or_isInfinite_or_isFinite with nan | infinite | finite
  · have unbounded : x.isFinite = false := Bool.eq_false_iff.mpr fun finite => by
      rw [isNaN_of_isFinite finite] at nan
      cases nan
    simp [extended?_of_isNaN nan, unbounded]
  · have unbounded : x.isFinite = false :=
      decide_eq_false (beq_iff_eq.mp infinite).not_lt
    rw [extended?_of_isInfinite infinite, unbounded]
    cases x.isNegative <;> simp
  · rw [extended?_of_isFinite finite, Option.some_inj, WithBot.coe_inj, WithTop.coe_inj]
    exact (and_iff_right finite).symm

/-- The unit of a significand is the distance to the next magnitude. -/
theorem two_zpow_exponent (x : Binary format) :
    (2 : ℚ) ^ x.exponent = format.spacing x.magnitude * 2 ^ format.leastExponent := by
  unfold exponent FloatFormat.spacing
  rw [zpow_add₀ two_ne_zero, zpow_natCast, Nat.cast_pow, Nat.cast_ofNat, mul_comm]
  rfl

/-- A significand is worth as many of the smallest positive number as the magnitude. -/
theorem significand_mul_two_zpow (x : Binary format) : x.significand * (2 : ℚ) ^ x.exponent =
    format.units x.magnitude * 2 ^ format.leastExponent := by
  rw [two_zpow_exponent, units_magnitude, Nat.cast_mul, mul_assoc]

/-- A finite number is worth as many of the smallest positive number as its magnitude. -/
theorem rational_eq_units (x : Binary format) : x.rational =
    (if x.isNegative then -1 else 1) * format.units x.magnitude * 2 ^ format.leastExponent := by
  unfold rational
  rw [mul_assoc, significand_mul_two_zpow, mul_assoc]

/-- A key says how many of the smallest positive number a finite number is worth. -/
theorem rational_eq (x : Binary format) :
    x.rational = format.signedUnits x.key * 2 ^ format.leastExponent := by
  have signed : (format.signedUnits x.key : ℚ) =
      (if x.isNegative then -1 else 1) * format.units x.magnitude := by
    unfold FloatFormat.signedUnits key
    cases x.isNegative with
    | false => simp
    | true =>
      rcases Nat.eq_zero_or_pos x.magnitude with zero | positive
      · simp [zero]
      · simp [positive.ne']
  rw [rational_eq_units, signed]

/-- The other sign leaves the magnitude. -/
@[simp]
theorem magnitude_neg (x : Binary format) : x.neg.magnitude = x.magnitude :=
  magnitude_ofParts _ x.magnitude_lt

/-- The other sign is the other sign. -/
@[simp]
theorem isNegative_neg (x : Binary format) : x.neg.isNegative = !x.isNegative :=
  isNegative_ofParts _ x.magnitude_lt

/-- A finite number with the other sign stands for the opposite rational. -/
theorem rational_neg (x : Binary format) : x.neg.rational = -x.rational := by
  rw [rational_eq_units, rational_eq_units, isNegative_neg, magnitude_neg]
  cases x.isNegative <;> simp

/-! ## The order of numbers -/

/-- A key is at most that of an infinity, unless the number is a NaN. -/
theorem key_bounds (number : x.isNaN = false) :
    -(format.infinityBits : ℤ) ≤ x.key ∧ x.key ≤ format.infinityBits := by
  have bound : x.magnitude ≤ format.infinityBits := Nat.not_lt.mp (of_decide_eq_false number)
  unfold key
  split <;> omega

/-- What a key stands for. -/
def extendedOfKey (format : FloatFormat) (key : ℤ) : ExtendedRational :=
  if key ≤ -format.infinityBits then ⊥
  else if format.infinityBits ≤ key then ⊤
  else ((format.signedUnits key * 2 ^ format.leastExponent : ℚ) : WithTop ℚ)

/-- A number stands for what its key stands for. -/
theorem extended?_eq (some_number : 0 < format.infinityBits) (number : x.isNaN = false) :
    x.extended? = some (extendedOfKey format x.key) := by
  unfold extendedOfKey
  rcases x.isNaN_or_isInfinite_or_isFinite with nan | infinite | finite
  · rw [number] at nan
    cases nan
  · have magnitude := beq_iff_eq.mp infinite
    rw [extended?_of_isInfinite infinite]
    unfold key
    cases x.isNegative with
    | false =>
      rw [if_neg Bool.false_ne_true, if_neg Bool.false_ne_true, if_neg (by omega),
        if_pos (by omega)]
    | true => rw [if_pos rfl, if_pos rfl, if_pos (by omega)]
  · have below := of_decide_eq_true finite
    have between : ¬x.key ≤ -(format.infinityBits : ℤ) ∧ ¬(format.infinityBits : ℤ) ≤ x.key := by
      unfold key
      split <;> omega
    rw [extended?_of_isFinite finite, if_neg between.1, if_neg between.2, rational_eq]

/-- Among the keys of numbers, a larger one stands for more. -/
theorem extendedOfKey_strictMonoOn : StrictMonoOn (extendedOfKey format)
    (Set.Icc (-(format.infinityBits : ℤ)) format.infinityBits) := by
  intro first inside second inside' below
  have lowest : ¬second ≤ -(format.infinityBits : ℤ) := (inside.1.trans_lt below).not_ge
  have highest : ¬(format.infinityBits : ℤ) ≤ first := (below.trans_le inside'.2).not_ge
  unfold extendedOfKey
  rw [if_neg lowest, if_neg highest]
  by_cases bottom : first ≤ -(format.infinityBits : ℤ)
  · rw [if_pos bottom]
    split
    · exact WithBot.bot_lt_coe _
    · exact WithBot.bot_lt_coe _
  · rw [if_neg bottom]
    split
    · exact WithBot.coe_lt_coe.mpr (WithTop.coe_lt_top _)
    · have scale : (0 : ℚ) < 2 ^ format.leastExponent := by positivity
      exact WithBot.coe_lt_coe.mpr (WithTop.coe_lt_coe.mpr (mul_lt_mul_of_pos_right
        (Int.cast_lt.mpr (FloatFormat.signedUnits_strictMono below)) scale))

/-- The order of numbers compares keys. -/
theorem le_iff_key : x ≤ y ↔ x.isNaN = false ∧ y.isNaN = false ∧ x.key ≤ y.key := by
  change (x.less y || x.equal y) = true ↔ _
  unfold less equal
  cases x.isNaN <;> cases y.isNaN <;> simp [Int.le_iff_lt_or_eq]

/-- A number is at most another one exactly if both stand for something and that is so ordered. -/
theorem le_iff (some_number : 0 < format.infinityBits) : x ≤ y ↔
    ∃ p q, x.extended? = some p ∧ y.extended? = some q ∧ p ≤ q := by
  rw [le_iff_key]
  constructor
  · rintro ⟨number, number', ordered⟩
    exact ⟨_, _, extended?_eq some_number number, extended?_eq some_number number',
      (extendedOfKey_strictMonoOn.le_iff_le (key_bounds number) (key_bounds number')).mpr ordered⟩
  · rintro ⟨p, q, stands, stands', ordered⟩
    have number : x.isNaN = false := Bool.eq_false_iff.mpr fun nan => by
      rw [extended?_of_isNaN nan] at stands
      cases stands
    have number' : y.isNaN = false := Bool.eq_false_iff.mpr fun nan => by
      rw [extended?_of_isNaN nan] at stands'
      cases stands'
    rw [extended?_eq some_number number] at stands
    rw [extended?_eq some_number number'] at stands'
    cases stands
    cases stands'
    exact ⟨number, number',
      (extendedOfKey_strictMonoOn.le_iff_le (key_bounds number) (key_bounds number')).mp ordered⟩

end Binary

end Covenant
