/-!
# Capabilities of values

One class for each standard protocol: what a value must offer to keep it. The protocols
themselves are data of the catalogue; the classes are what a program written against them uses.
-/
namespace Covenant

/-- Values that have a lower-case form. The form need not be of the type of the value. -/
class LowercaseConvertible (α : Type u) (Lowered : outParam (Type v)) where
  /-- The lower-case form. -/
  lower : α → Lowered

/-- Values that answer whether they hold an item. -/
class ContainmentCheckable (α : Type u) (Item : Type v) where
  /-- Whether the item is held. -/
  holds : α → Item → Bool

/-- Values that convert to a signed integer of 64 bits. -/
class IntConvertible (α : Type u) where
  /-- The integer. -/
  toInt64 : α → Int64

/-- Values that report how many elements they hold. -/
class SizeQueryable (α : Type u) where
  /-- The number of elements. -/
  size : α → Nat

end Covenant
