import Covenant.Number.Conversion
import Covenant.Text.Lower

/-!
# References and holders

A reference offers what the value that it refers to offers, whatever the type of that value; so
what is written against a capability takes values and references to them alike. A text may also be
held in a box, or be borrowed until it has to be owned; however it is held, it lowers as the text
that it is.
-/
namespace Covenant

/-- A reference to a value. -/
structure Reference (α : Type u) where
  /-- The value referred to. -/
  target : α

variable {α : Type u} {Lowered : Type v} {Item : Type w}

instance [LowercaseConvertible α Lowered] : LowercaseConvertible (Reference α) Lowered :=
  ⟨fun reference => LowercaseConvertible.lower reference.target⟩

instance [ContainmentCheckable α Item] : ContainmentCheckable (Reference α) Item :=
  ⟨fun reference item => ContainmentCheckable.holds reference.target item⟩

instance [SizeQueryable α] : SizeQueryable (Reference α) :=
  ⟨fun reference => SizeQueryable.size reference.target⟩

instance [IntConvertible α] : IntConvertible (Reference α) :=
  ⟨fun reference => IntConvertible.toInt64 reference.target⟩

instance [FloatConvertible α] : FloatConvertible (Reference α) :=
  ⟨fun reference => FloatConvertible.toDouble reference.target⟩

instance [ComplexConvertible α] : ComplexConvertible (Reference α) :=
  ⟨fun reference => ComplexConvertible.toComplex reference.target⟩

/-- A text in a box of its own, which does not grow. -/
structure BoxedText where
  /-- The text. -/
  text : String

instance : LowercaseConvertible BoxedText String := ⟨fun boxed => Text.lower boxed.text⟩

/-- A text that is borrowed until it has to be owned. -/
inductive LentText
  /-- A slice of a text that belongs to another. -/
  | borrowed (slice : String.Slice)
  /-- A text of its own. -/
  | owned (text : String)

namespace LentText

/-- The text, whoever owns it. -/
def text : LentText → String
  | borrowed slice => slice.copy
  | owned text => text

end LentText

instance : LowercaseConvertible LentText String := ⟨fun lent => Text.lower lent.text⟩

end Covenant
