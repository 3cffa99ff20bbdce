import Covenant.Capability
import Covenant.Collection.Deque
import Covenant.Collection.Interval
import Covenant.Text.Lower
import Std.Data.HashMap
import Std.Data.HashSet
import Std.Data.TreeMap
import Std.Data.TreeSet

/-!
# Capabilities of texts and collections

Lists, arrays and queues hold their elements, as often as they occur; sets hold each element
once; maps hold their keys. Sets and maps can be asked with any form that shows an element. A text
holds the texts that occur in it and counts its characters. A slice of a text answers as the text
that it shows.
-/
namespace Covenant

namespace Text

/-- Whether characters occur in a row among others. -/
def occursIn (part : List Char) : List Char → Bool
  | [] => part.isEmpty
  | c :: rest => part.isPrefixOf (c :: rest) || occursIn part rest

/-- Whether a text occurs in another. -/
def contains (text part : String) : Bool := occursIn part.toList text.toList

/-- Whether a character occurs in a text. -/
def containsChar (text : String) (c : Char) : Bool := text.toList.contains c

/-- The number of characters. -/
def size (text : String) : Nat := text.toList.length

end Text

instance : LowercaseConvertible String String := ⟨Text.lower⟩
instance : LowercaseConvertible Char String := ⟨fun c => String.ofList (Text.lowerChar c)⟩
instance : LowercaseConvertible UInt8 UInt8 := ⟨Text.lowerByte⟩
instance : LowercaseConvertible (List UInt8) (Array UInt8) :=
  ⟨fun bytes => bytes.toArray.map Text.lowerByte⟩
instance : LowercaseConvertible (Array UInt8) (Array UInt8) := ⟨Array.map Text.lowerByte⟩

instance : ContainmentCheckable String String := ⟨Text.contains⟩
instance : ContainmentCheckable String Char := ⟨Text.containsChar⟩
instance : SizeQueryable String := ⟨Text.size⟩

section Slices

instance : LowercaseConvertible String.Slice String := ⟨fun text => Text.lower text.copy⟩

instance : ContainmentCheckable String String.Slice :=
  ⟨fun text part => Text.contains text part.copy⟩
instance : ContainmentCheckable String.Slice String := ⟨fun text => Text.contains text.copy⟩
instance : ContainmentCheckable String.Slice String.Slice :=
  ⟨fun text part => Text.contains text.copy part.copy⟩
instance : ContainmentCheckable String.Slice Char := ⟨fun text => Text.containsChar text.copy⟩

instance : SizeQueryable String.Slice := ⟨fun text => Text.size text.copy⟩

end Slices

section Sequences

variable {α : Type} [BEq α]

instance : ContainmentCheckable (List α) α := ⟨fun items a => items.contains a⟩
instance : ContainmentCheckable (Array α) α := ⟨fun items a => items.contains a⟩
instance {n : Nat} : ContainmentCheckable (Vector α n) α := ⟨fun items a => items.contains a⟩
instance : ContainmentCheckable (Deque α) α := ⟨Deque.contains⟩

instance : SizeQueryable (List α) := ⟨List.length⟩
instance : SizeQueryable (Array α) := ⟨Array.size⟩
instance {n : Nat} : SizeQueryable (Vector α n) := ⟨fun _ => n⟩
instance : SizeQueryable (Deque α) := ⟨Deque.size⟩

end Sequences

/-- Forms that show a value: the value itself, or what is borrowed from it. -/
class Shows (Form : Type u) (α : Type v) where
  /-- The value that a form shows. -/
  shown : Form → α

instance {α : Type} : Shows α α := ⟨id⟩
instance : Shows String.Slice String := ⟨String.Slice.copy⟩

section Hashed

variable {α β Form : Type} [BEq α] [Hashable α] [Shows Form α]

instance : ContainmentCheckable (Std.HashSet α) Form :=
  ⟨fun set form => set.contains (Shows.shown form)⟩
instance : ContainmentCheckable (Std.HashMap α β) Form :=
  ⟨fun map form => map.contains (Shows.shown form)⟩

instance : SizeQueryable (Std.HashSet α) := ⟨fun set => set.size⟩
instance : SizeQueryable (Std.HashMap α β) := ⟨fun map => map.size⟩

end Hashed

section Ordered

variable {α β Form : Type} [Ord α] [Shows Form α]

instance : ContainmentCheckable (Std.TreeSet α) Form :=
  ⟨fun set form => set.contains (Shows.shown form)⟩
instance : ContainmentCheckable (Std.TreeMap α β) Form :=
  ⟨fun map form => map.contains (Shows.shown form)⟩

instance : SizeQueryable (Std.TreeSet α) := ⟨fun set => set.size⟩
instance : SizeQueryable (Std.TreeMap α β) := ⟨fun map => map.size⟩

end Ordered

section Intervals

variable {α : Type} [LT α] [LE α] [DecidableLT α] [DecidableLE α]

instance : ContainmentCheckable (HalfOpen α) α := ⟨HalfOpen.contains⟩
instance : ContainmentCheckable (Closed α) α := ⟨Closed.contains⟩

end Intervals

end Covenant
