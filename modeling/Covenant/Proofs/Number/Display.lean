import Covenant.Number.Complex
import Covenant.Proofs.Number.Decimal

/-!
# Numbers in texts for readers

The text of a number tells its bits, unless the number is a NaN (`Binary.display_inj`): the sign is
in front, and what follows is the shortest decimal, which stands for no other magnitude. The text
of a complex number is put together from such texts in two ways, with the sign of the imaginary part
inside one of them or between them. It still tells the bits of both parts
(`Complex.display_eq_iff`), because a text of a number has no parenthesis, and no sign but the one
in front.
-/
namespace Covenant

namespace Binary

variable {format : FloatFormat} {x y : Binary format}

/-- A character of a number without its sign: a digit, a point or a letter of an infinity. -/
def IsUnsigned (c : Char) : Prop := c.isDigit = true ∨ c ∈ ['.', 'i', 'n', 'f']

instance (c : Char) : Decidable (IsUnsigned c) := inferInstanceAs (Decidable (_ ∨ _))

/-- The text of a magnitude. -/
theorem display_abs (number : x.isNaN = false) : x.abs.display =
    if x.isInfinite then ['i', 'n', 'f'] else (x.shortest .upward).positional := by
  have isNaN : x.abs.isNaN = x.isNaN := by
    unfold isNaN
    rw [magnitude_abs]
  have isInfinite : x.abs.isInfinite = x.isInfinite := by
    unfold isInfinite
    rw [magnitude_abs]
  have shortest : x.abs.shortest .upward = x.shortest .upward :=
    shortest_congr .upward x.magnitude_abs
  unfold display
  rw [isNaN, number, isInfinite, shortest, isNegative_abs]
  rfl

/-- The text of a number is the sign of a negative one and the text of its magnitude. -/
theorem display_eq (number : x.isNaN = false) :
    x.display = (if x.isNegative then ['-'] else []) ++ x.abs.display := by
  rw [display_abs number]
  unfold display
  rw [number]
  rfl

/-- The text of a magnitude has no sign. -/
theorem isUnsigned_of_mem (number : x.isNaN = false) {c : Char} (member : c ∈ x.abs.display) :
    IsUnsigned c := by
  rw [display_abs number] at member
  split at member
  · exact .inr (List.mem_cons_of_mem _ member)
  · rcases (x.shortest .upward).positional_ne_nil.2 c member with digit | point
    · exact .inl digit
    · exact .inr (List.mem_cons.mpr (.inl point))

/-- The text of a number has no character but a sign in front that is not in one of a magnitude. -/
theorem isUnsigned_or_sign_of_mem (number : x.isNaN = false) {c : Char} (member : c ∈ x.display) :
    c = '-' ∨ IsUnsigned c := by
  rw [display_eq number, List.mem_append] at member
  rcases member with sign | unsigned
  · split at sign
    · exact .inl (List.mem_singleton.mp sign)
    · cases sign
  · exact .inr (isUnsigned_of_mem number unsigned)

/-- Magnitudes that are written alike are the same. -/
theorem magnitude_eq_of_display_abs (some_fraction : 0 < format.fractionBits)
    (number : x.isNaN = false) (number' : y.isNaN = false)
    (alike : x.abs.display = y.abs.display) : x.magnitude = y.magnitude := by
  rw [display_abs number, display_abs number'] at alike
  -- An infinity has letters, and a decimal has none.
  have noLetter (decimal : Decimal) : decimal.positional ≠ ['i', 'n', 'f'] := fun same => by
    have all := decimal.positional_ne_nil.2 'i' (by rw [same]; exact List.mem_cons_self)
    exact absurd all (by decide)
  cases infinite : x.isInfinite <;> cases infinite' : y.isInfinite <;>
    simp only [infinite, infinite', Bool.false_eq_true, ↓reduceIte] at alike
  · exact magnitude_eq_of_value_shortest some_fraction (Decimal.value_eq_of_positional alike)
  · exact absurd alike (noLetter _)
  · exact absurd alike.symm (noLetter _)
  · exact (beq_iff_eq.mp infinite).trans (beq_iff_eq.mp infinite').symm

/-- The text of a number that is no NaN tells its bits. -/
theorem display_inj (some_fraction : 0 < format.fractionBits) (number : x.isNaN = false)
    (number' : y.isNaN = false) (alike : x.display = y.display) : x.bits = y.bits := by
  rw [display_eq number, display_eq number'] at alike
  have unsigned : '-' ∉ x.abs.display := fun member =>
    absurd (isUnsigned_of_mem number member) (by decide)
  have unsigned' : '-' ∉ y.abs.display := fun member =>
    absurd (isUnsigned_of_mem number' member) (by decide)
  cases sign : x.isNegative <;> cases sign' : y.isNegative <;>
    simp only [sign, sign', Bool.false_eq_true, ↓reduceIte, List.nil_append, List.cons_append]
      at alike
  · exact bits_eq (sign.trans sign'.symm)
      (magnitude_eq_of_display_abs some_fraction number number' alike)
  · exact absurd (alike ▸ List.mem_cons_self) unsigned
  · exact absurd (alike ▸ List.mem_cons_self) unsigned'
  · exact bits_eq (sign.trans sign'.symm)
      (magnitude_eq_of_display_abs some_fraction number number' (List.cons.inj alike).2)

end Binary

namespace Complex

variable {z w : Complex}

/-- A text has one last sign. -/
theorem eq_of_last_sign {first first' last last' : List Char} {sign sign' : Char}
    (isSign : ¬Binary.IsUnsigned sign) (isSign' : ¬Binary.IsUnsigned sign')
    (unsigned : ∀ c ∈ last, Binary.IsUnsigned c) (unsigned' : ∀ c ∈ last', Binary.IsUnsigned c)
    (same : first ++ sign :: last = first' ++ sign' :: last') :
    first = first' ∧ sign = sign' ∧ last = last' := by
  rcases List.append_eq_append_iff.mp same with ⟨between, rest, parts⟩ | ⟨between, rest, parts⟩
  · cases between with
    | nil =>
      cases parts
      exact ⟨(List.append_nil first).symm.trans rest.symm, rfl, rfl⟩
    | cons c more =>
      obtain ⟨_, parts⟩ := List.cons.inj parts
      exact absurd (unsigned sign' (parts ▸ List.mem_append_right more List.mem_cons_self)) isSign'
  · cases between with
    | nil =>
      cases parts
      exact ⟨rest.trans (List.append_nil first'), rfl, rfl⟩
    | cons c more =>
      obtain ⟨_, parts⟩ := List.cons.inj parts
      exact absurd (unsigned' sign (parts ▸ List.mem_append_right more List.mem_cons_self)) isSign

/-- The real part is positive zero, which is left out. -/
def IsBare (z : Complex) : Prop := z.re.magnitude = 0 ∧ ¬z.re.isNegative = true

/-- The text of an imaginary part that stands alone. -/
theorem display_of_bare (bare : z.IsBare) :
    z.display = String.ofList (z.im.display ++ ['j']) := congrArg String.ofList (if_pos bare)

/-- The text of both parts. -/
theorem display_of_not_bare (both : ¬z.IsBare) : z.display = String.ofList
    ('(' :: (z.re.display ++ (if z.im.isNegative then '-' else '+') :: z.im.abs.display) ++
      ['j', ')']) := by
  have layout : ¬(z.re.magnitude = 0 ∧ ¬z.re.isNegative = true) := both
  unfold display
  rw [if_neg layout]
  simp only [List.append_assoc, List.cons_append, List.nil_append]

/-- A text with a parenthesis is not the text of an imaginary part alone. -/
theorem display_ne_of_layouts (number : z.im.isNaN = false) (bare : z.IsBare) (both : ¬w.IsBare) :
    z.display ≠ w.display := by
  rw [display_of_bare bare, display_of_not_bare both]
  intro same
  have parenthesis : '(' ∈ z.im.display ++ ['j'] := by
    rw [String.ofList_injective same]
    exact List.mem_cons_self
  rcases List.mem_append.mp parenthesis with inside | unit
  · rcases Binary.isUnsigned_or_sign_of_mem number inside with sign | unsigned
    · cases sign
    · exact absurd unsigned (by decide)
  · exact absurd unit (by decide)

/-- Complex numbers whose parts are no NaNs are written alike exactly if both parts have the same
bits. -/
theorem display_eq_iff (re : z.re.isNaN = false) (im : z.im.isNaN = false)
    (re' : w.re.isNaN = false) (im' : w.im.isNaN = false) :
    z.display = w.display ↔ z.re.bits = w.re.bits ∧ z.im.bits = w.im.bits := by
  have some_fraction : 0 < FloatFormat.double.fractionBits := by decide
  constructor
  · intro same
    by_cases bare : z.IsBare <;> by_cases bare' : w.IsBare
    · rw [display_of_bare bare, display_of_bare bare'] at same
      have parts := List.append_cancel_right (String.ofList_injective same)
      refine ⟨Binary.bits_eq ?_ (bare.1.trans bare'.1.symm),
        Binary.display_inj some_fraction im im' parts⟩
      rw [Bool.eq_false_iff.mpr bare.2, Bool.eq_false_iff.mpr bare'.2]
    · exact absurd same (display_ne_of_layouts im bare bare')
    · exact absurd same.symm (display_ne_of_layouts im' bare' bare)
    · rw [display_of_not_bare bare, display_of_not_bare bare'] at same
      have parts := (List.cons.inj
        (List.append_cancel_right (String.ofList_injective same))).2
      obtain ⟨reals, signs, magnitudes⟩ := eq_of_last_sign (by split <;> decide)
        (by split <;> decide) (fun _ => Binary.isUnsigned_of_mem im)
        (fun _ => Binary.isUnsigned_of_mem im') parts
      refine ⟨Binary.display_inj some_fraction re re' reals, Binary.bits_eq ?_
        (Binary.magnitude_eq_of_display_abs some_fraction im im' magnitudes)⟩
      cases sign : z.im.isNegative <;> cases sign' : w.im.isNegative <;>
        simp [sign, sign'] at signs ⊢
  · rintro ⟨reals, imaginaries⟩
    obtain ⟨⟨_⟩, ⟨_⟩⟩ := z
    obtain ⟨⟨_⟩, ⟨_⟩⟩ := w
    cases reals
    cases imaginaries
    rfl

/-- Parts of both signs: a zero beside the smallest number, and that beside an infinity. -/
def extremes : List Complex :=
  [false, true].flatMap fun negative => [false, true].flatMap fun negative' =>
    [⟨.ofParts negative 0, .ofParts negative' 1⟩,
      ⟨.ofParts negative 1, .ofParts negative' FloatFormat.double.infinityBits⟩]

/-- Zeros, smallest numbers and infinities of either sign are all written differently. -/
theorem display_eq_iff_extremes :
    (∀ z ∈ extremes, z.re.isNaN = false ∧ z.im.isNaN = false) ∧
      (extremes.map display).Nodup := by
  have numbers : ∀ z ∈ extremes, z.re.isNaN = false ∧ z.im.isNaN = false := by decide +kernel
  have apart : extremes.Pairwise fun z w => ¬(z.re.bits = w.re.bits ∧ z.im.bits = w.im.bits) := by
    decide +kernel
  refine ⟨numbers, List.pairwise_map.mpr (apart.imp_of_mem ?_)⟩
  intro z w member member' different same
  obtain ⟨re, im⟩ := numbers z member
  obtain ⟨re', im'⟩ := numbers w member'
  exact different ((display_eq_iff re im re' im').mp same)

example : [⟨.zero, .ofParts true 0⟩, ⟨.ofParts true 0, .zero⟩].map display =
    ["-0j", "(-0+0j)"] := by
  decide +kernel

end Complex

end Covenant
