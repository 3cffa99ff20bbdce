import Covenant.Proofs.Number.Rounding
import Mathlib.Data.List.TakeWhile

/-!
# Decimals written with a point

A decimal is written with digits and a point, and never with a sign or an exponent. What is written
can be read again: the digits without the point are an integer, and the digits after the point say
which power of ten it counts (`Decimal.ofPositional`). The decimal that is read need not be the one
that was written, but it has the same value (`Decimal.value_ofPositional`). So decimals that are
written alike are equal in value.
-/
namespace Covenant.Decimal

/-- The decimal that digits stand for, with a point or without. -/
def ofPositional (text : List Char) : Decimal :=
  let whole := text.takeWhile (· ≠ '.')
  let fraction := (text.dropWhile (· ≠ '.')).drop 1
  ⟨Nat.ofDigitChars 10 (whole ++ fraction) 0, -(fraction.length : ℤ)⟩

variable {whole fraction : List Char} {decimal : Decimal}

/-- Digits without a point are an integer. -/
theorem ofPositional_whole (noPoint : '.' ∉ whole) :
    ofPositional whole = ⟨Nat.ofDigitChars 10 whole 0, 0⟩ := by
  have digits : ∀ c ∈ whole, decide (c ≠ '.') = true := fun c member =>
    decide_eq_true fun same => noPoint (same ▸ member)
  have taken : whole.takeWhile (· ≠ '.') = whole := List.takeWhile_eq_self_iff.mpr digits
  have left : whole.dropWhile (· ≠ '.') = [] := List.dropWhile_eq_nil_iff.mpr digits
  unfold ofPositional
  rw [taken, left]
  simp

/-- The digits after a point say which power of ten all digits count. -/
theorem ofPositional_append (noPoint : '.' ∉ whole) : ofPositional (whole ++ '.' :: fraction) =
    ⟨Nat.ofDigitChars 10 (whole ++ fraction) 0, -(fraction.length : ℤ)⟩ := by
  have digits : ∀ c ∈ whole, decide (c ≠ '.') = true := fun c member =>
    decide_eq_true fun same => noPoint (same ▸ member)
  have taken : (whole ++ '.' :: fraction).takeWhile (· ≠ '.') = whole := by
    rw [List.takeWhile_append_of_pos digits, List.takeWhile_cons_of_neg (by decide),
      List.append_nil]
  have left : (whole ++ '.' :: fraction).dropWhile (· ≠ '.') = '.' :: fraction := by
    rw [List.dropWhile_append_of_pos digits, List.dropWhile_cons_of_neg (by decide)]
  unfold ofPositional
  rw [taken, left, List.drop_one, List.tail_cons]

/-- The digits of an integer are digits. -/
theorem isDigit_of_mem_text {c : Char} (member : c ∈ decimal.text) : c.isDigit = true :=
  Nat.isDigit_of_mem_toDigits (by decide) (by decide) member

/-- A point is no digit. -/
theorem point_notMem {digits : List Char} (all : ∀ c ∈ digits, c.isDigit = true) :
    '.' ∉ digits := fun member => absurd (all _ member) (by decide)

/-- A decimal is written as digits, or as digits with a point among them, that stand for its
value. -/
theorem positional_cases (decimal : Decimal) : ∃ whole fraction : List Char,
    (∀ c ∈ whole, c.isDigit = true) ∧ (∀ c ∈ fraction, c.isDigit = true) ∧ whole ≠ [] ∧
    (fraction = [] ∧ decimal.positional = whole ∨
      decimal.positional = whole ++ '.' :: fraction) ∧
    Decimal.value ⟨Nat.ofDigitChars 10 (whole ++ fraction) 0, -(fraction.length : ℤ)⟩ =
      decimal.value := by
  have digits : ∀ c ∈ decimal.text, c.isDigit = true := fun c => isDigit_of_mem_text
  have some_digit : decimal.text ≠ [] := Nat.toDigits_ne_nil
  have number : Nat.ofDigitChars 10 decimal.text 0 = decimal.digits :=
    Nat.ofDigitChars_ten_toDigits
  have zeros (count : Nat) : ∀ c ∈ List.replicate count '0', c.isDigit = true := fun c member => by
    rw [List.eq_of_mem_replicate member]
    rfl
  unfold positional
  dsimp only
  by_cases whole : 0 ≤ decimal.exponent
  · refine ⟨decimal.text ++ List.replicate decimal.exponent.toNat '0', [],
      List.forall_mem_append.mpr ⟨digits, zeros _⟩, List.forall_mem_nil _,
      List.append_ne_nil_of_left_ne_nil some_digit _, .inl ⟨rfl, if_pos whole⟩, ?_⟩
    have power : (10 : ℚ) ^ decimal.exponent.toNat = 10 ^ decimal.exponent := by
      rw [← zpow_natCast, Int.toNat_of_nonneg whole]
    rw [List.append_nil, Nat.ofDigitChars_append, number, Nat.ofDigitChars_replicate_zero]
    unfold value
    rw [Nat.cast_mul, Nat.cast_pow, Nat.cast_ofNat, power, List.length_nil, Nat.cast_zero,
      neg_zero, zpow_zero, mul_one, mul_comm]
  · rw [if_neg whole]
    have places : -((-decimal.exponent).toNat : ℤ) = decimal.exponent := by omega
    by_cases point : (-decimal.exponent).toNat < decimal.text.length
    · refine ⟨decimal.text.take (decimal.text.length - (-decimal.exponent).toNat),
        decimal.text.drop (decimal.text.length - (-decimal.exponent).toNat),
        fun c member => digits c (List.mem_of_mem_take member),
        fun c member => digits c (List.mem_of_mem_drop member), ?_, .inr (if_pos point), ?_⟩
      · apply List.ne_nil_of_length_pos
        rw [List.length_take]
        omega
      · rw [List.take_append_drop, number, List.length_drop, Nat.sub_sub_self point.le, places]
    · refine ⟨['0'], List.replicate ((-decimal.exponent).toNat - decimal.text.length) '0' ++
        decimal.text, List.forall_mem_singleton.mpr rfl,
        List.forall_mem_append.mpr ⟨zeros _, digits⟩, List.cons_ne_nil _ _, .inr (if_neg point), ?_⟩
      have nothing : Nat.ofDigitChars 10 ['0'] 0 = 0 := rfl
      rw [Nat.ofDigitChars_append, nothing, Nat.ofDigitChars_append,
        Nat.ofDigitChars_replicate_zero, Nat.mul_zero, number, List.length_append,
        List.length_replicate, Nat.sub_add_cancel (Nat.not_lt.mp point), places]

/-- Nothing but digits and a point is written, and something is. -/
theorem positional_ne_nil (decimal : Decimal) : decimal.positional ≠ [] ∧
    ∀ c ∈ decimal.positional, c.isDigit = true ∨ c = '.' := by
  obtain ⟨whole, fraction, digits, digits', some_digit, written, _⟩ := decimal.positional_cases
  rcases written with ⟨_, written⟩ | written
  · rw [written]
    exact ⟨some_digit, fun c member => .inl (digits c member)⟩
  · rw [written]
    refine ⟨List.append_ne_nil_of_left_ne_nil some_digit _, fun c member => ?_⟩
    rcases List.mem_append.mp member with first | later
    · exact .inl (digits c first)
    · rcases List.mem_cons.mp later with point | last
      · exact .inr point
      · exact .inl (digits' c last)

/-- What is written reads back as the same value. -/
theorem value_ofPositional (decimal : Decimal) :
    (ofPositional decimal.positional).value = decimal.value := by
  obtain ⟨whole, fraction, digits, _, _, written, same⟩ := decimal.positional_cases
  rcases written with ⟨rfl, written⟩ | written
  · rw [written, ofPositional_whole (point_notMem digits), ← same, List.append_nil]
    rfl
  · rw [written, ofPositional_append (point_notMem digits), same]

/-- Decimals that are written alike have the same value. -/
theorem value_eq_of_positional {first second : Decimal}
    (alike : first.positional = second.positional) : first.value = second.value := by
  rw [← value_ofPositional first, ← value_ofPositional second, alike]

end Covenant.Decimal
