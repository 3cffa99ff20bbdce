import Covenant.Proofs.Number.Display
import Covenant.Proofs.Number.Value

/-!
# NaNs in texts for readers

A NaN is written without its sign and its payload, so numbers that differ in nothing else are
written alike (`Binary.Alike.display`). In the text of a complex number with both parts, however,
the sign of the imaginary part stands between them, and it is shown even if that part is a NaN
(`Complex.plus_suffix_iff`). So such numbers are written alike exactly if their imaginary parts
have the same sign bit or stand alone (`Complex.display_eq_iff_of_alike`), and the conjugate of a
number with a NaN may be written differently (`Complex.sign_of_nan_shown`).
-/
namespace Covenant

namespace Binary

variable {format : FloatFormat} {x y : Binary format}

/-- Numbers of the same bits, or two NaNs. -/
def Alike (x y : Binary format) : Prop := x.bits = y.bits ∨ x.isNaN = true ∧ y.isNaN = true

instance (x y : Binary format) : Decidable (x.Alike y) := inferInstanceAs (Decidable (_ ∨ _))

/-- A NaN without its sign is a NaN. -/
@[simp]
theorem isNaN_abs (x : Binary format) : x.abs.isNaN = x.isNaN := by
  unfold isNaN
  rw [magnitude_abs]

/-- A NaN with the other sign is a NaN. -/
@[simp]
theorem isNaN_neg (x : Binary format) : x.neg.isNaN = x.isNaN := by
  unfold isNaN
  rw [magnitude_neg]

/-- A NaN is written without its sign. -/
theorem display_of_isNaN (nan : x.isNaN = true) : x.display = ['n', 'a', 'n'] := if_pos nan

namespace Alike

variable (alike : x.Alike y)
include alike

/-- Numbers that are alike are written alike. -/
theorem display : x.display = y.display := by
  rcases alike with same | ⟨nan, nan'⟩
  · obtain ⟨_⟩ := x
    obtain ⟨_⟩ := y
    cases same
    rfl
  · rw [display_of_isNaN nan, display_of_isNaN nan']

/-- Numbers that are alike are alike without their signs. -/
theorem abs : x.abs.Alike y.abs := by
  rcases alike with same | ⟨nan, nan'⟩
  · obtain ⟨_⟩ := x
    obtain ⟨_⟩ := y
    cases same
    exact .inl rfl
  · exact .inr ⟨(isNaN_abs x).trans nan, (isNaN_abs y).trans nan'⟩

end Alike

end Binary

namespace Complex

variable {z w : Complex}

/-- A real part that is left out is positive zero, which is like no other number. -/
theorem isBare_iff_of_alike (re : z.re.Alike w.re) : z.IsBare ↔ w.IsBare := by
  have not_bare {u : Complex} (nan : u.re.isNaN = true) : ¬u.IsBare := fun bare => by
    have above := of_decide_eq_true nan
    rw [bare.1] at above
    exact Nat.not_lt_zero _ above
  rcases re with same | ⟨nan, nan'⟩
  · obtain ⟨⟨_⟩, _⟩ := z
    obtain ⟨⟨_⟩, _⟩ := w
    cases same
    rfl
  · exact iff_of_false (not_bare nan) (not_bare nan')

/-- Beside a real part that is written, a NaN is written with the sign of its bits in front. -/
theorem display_of_isNaN (nan : z.im.isNaN = true) (both : ¬z.IsBare) :
    z.display = String.ofList ('(' :: z.re.display ++
      (if z.im.isNegative then '-' else '+') :: ['n', 'a', 'n', 'j', ')']) := by
  rw [display_of_not_bare both, Binary.display_of_isNaN ((Binary.isNaN_abs _).trans nan)]
  simp only [List.append_assoc, List.cons_append, List.nil_append]

/-- Complex numbers whose parts are alike are written alike exactly if the imaginary parts have the
same sign or stand alone. -/
theorem display_eq_display_iff (re : z.re.Alike w.re) (im : z.im.Alike w.im) :
    z.display = w.display ↔ z.IsBare ∨ z.im.isNegative = w.im.isNegative := by
  by_cases bare : z.IsBare
  · rw [display_of_bare bare, display_of_bare ((isBare_iff_of_alike re).mp bare), im.display]
    exact iff_of_true rfl (.inl bare)
  · rw [display_of_not_bare bare, display_of_not_bare ((isBare_iff_of_alike re).not.mp bare),
      re.display, im.abs.display, or_iff_right bare]
    constructor
    · intro same
      have signs := (List.cons.inj (List.append_cancel_left (List.append_cancel_right
        (List.cons.inj (String.ofList_injective same)).2))).1
      cases sign : z.im.isNegative <;> cases sign' : w.im.isNegative <;>
        simp [sign, sign'] at signs ⊢
    · intro same
      rw [same]

/-- A text with a NaN beside a real part that is written ends with the sign of the NaN's bits. -/
theorem plus_suffix_iff (nan : z.im.isNaN = true) (both : ¬z.IsBare) :
    ['+', 'n', 'a', 'n', 'j', ')'] <:+ z.display.toList ↔ z.im.isNegative = false := by
  rw [display_of_isNaN nan both, String.toList_ofList]
  cases z.im.isNegative with
  | false => exact iff_of_true ⟨_, rfl⟩ rfl
  | true =>
    refine iff_of_false ?_ Bool.noConfusion
    rintro ⟨front, same⟩
    have ends := List.append_inj_right' same rfl
    exact absurd (List.cons.inj ends).1 (by decide)

/-- Complex numbers whose parts are alike are written alike exactly if the imaginary parts have the
same sign or stand alone. A NaN beside a real part that is written shows the sign of its bits, so
the conjugate is written alike exactly if the NaN stands alone. -/
theorem display_eq_iff_of_alike (re : z.re.Alike w.re) (im : z.im.Alike w.im) :
    (z.display = w.display ↔ z.IsBare ∨ z.im.isNegative = w.im.isNegative) ∧
      (z.im.isNaN = true → ¬z.IsBare →
        (['+', 'n', 'a', 'n', 'j', ')'] <:+ z.display.toList ↔ z.im.isNegative = false)) ∧
      (z.im.isNaN = true → (z.display = z.conj.display ↔ z.IsBare)) := by
  refine ⟨display_eq_display_iff re im, plus_suffix_iff, fun nan => ?_⟩
  have re' : z.re.Alike z.conj.re := .inl rfl
  have im' : z.im.Alike z.conj.im := .inr ⟨nan, (Binary.isNaN_neg _).trans nan⟩
  rw [display_eq_display_iff re' im']
  refine or_iff_left fun same => ?_
  have opposite : z.conj.im.isNegative = !z.im.isNegative := Binary.isNegative_neg _
  rw [opposite] at same
  cases sign : z.im.isNegative <;> simp [sign] at same

/-- One, beside a NaN of either sign. -/
def oneBesideNaN (negative : Bool) : Complex :=
  ⟨.ofParts false 0x3ff0000000000000, .ofParts negative 0x7ff8000000000000⟩

/-- Nothing, beside NaNs of either sign and different payloads. -/
def nothingBesideNaN (negative : Bool) : Complex :=
  ⟨.zero, .ofParts negative (if negative then 0x7ff0000000000001 else 0x7ff8000000000000)⟩

/-- NaNs that stand alone are written alike. -/
theorem display_eq_iff_of_alike_bare :
    (nothingBesideNaN true).re.Alike (nothingBesideNaN false).re ∧
      (nothingBesideNaN true).im.Alike (nothingBesideNaN false).im ∧
      (nothingBesideNaN true).display = (nothingBesideNaN false).display ∧
      (nothingBesideNaN true).display = (nothingBesideNaN true).conj.display := by
  have re : (nothingBesideNaN true).re.Alike (nothingBesideNaN false).re := by decide
  have im : (nothingBesideNaN true).im.Alike (nothingBesideNaN false).im := by decide
  have bare : (nothingBesideNaN true).IsBare := ⟨by decide, by decide⟩
  obtain ⟨same, _, conjugate⟩ := display_eq_iff_of_alike re im
  exact ⟨re, im, same.mpr (.inl bare), (conjugate (by decide)).mpr bare⟩

/-- The sign of a NaN is shown: the conjugate of one beside a NaN has parts that are alike, and is
written differently. -/
theorem sign_of_nan_shown :
    (oneBesideNaN true).re.Alike (oneBesideNaN true).conj.re ∧
      (oneBesideNaN true).im.Alike (oneBesideNaN true).conj.im ∧
      (oneBesideNaN true).display = "(1-nanj)" ∧
      (oneBesideNaN true).conj.display = "(1+nanj)" ∧
      (oneBesideNaN true).display ≠ (oneBesideNaN true).conj.display := by
  have shown : (oneBesideNaN true).display = "(1-nanj)" ∧
      (oneBesideNaN true).conj.display = "(1+nanj)" := by decide +kernel
  refine ⟨by decide, by decide, shown.1, shown.2, ?_⟩
  rw [shown.1, shown.2]
  decide

end Complex

end Covenant
