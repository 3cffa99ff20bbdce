/-!
# Double-ended queues

A queue that grows and shrinks at both ends, kept as its front and, in reverse, its back. Where it
is cut in two does not show: it answers as the list of its elements in order.
-/
namespace Covenant

/-- A double-ended queue. -/
structure Deque (α : Type u) where
  /-- The first elements in order. -/
  front : List α
  /-- The other elements, the last first. -/
  back : List α

namespace Deque

variable {α : Type u}

/-- The queue without elements. -/
def empty : Deque α := ⟨[], []⟩

/-- Put an element before the others. -/
def pushFront (deque : Deque α) (a : α) : Deque α := ⟨a :: deque.front, deque.back⟩

/-- Put an element after the others. -/
def pushBack (deque : Deque α) (a : α) : Deque α := ⟨deque.front, a :: deque.back⟩

/-- The elements in order. -/
def toList (deque : Deque α) : List α := deque.front ++ deque.back.reverse

/-- The queue of some elements. -/
def ofList (elements : List α) : Deque α := elements.foldl pushBack empty

/-- The number of elements. -/
def size (deque : Deque α) : Nat := deque.front.length + deque.back.length

/-- Whether an element is in the queue. -/
def contains [BEq α] (deque : Deque α) (a : α) : Bool :=
  deque.front.contains a || deque.back.contains a

@[simp] theorem toList_pushFront (deque : Deque α) (a : α) :
    (deque.pushFront a).toList = a :: deque.toList := rfl

@[simp] theorem toList_pushBack (deque : Deque α) (a : α) :
    (deque.pushBack a).toList = deque.toList ++ [a] := by
  simp [pushBack, toList]

/-- Elements that are put after those of a queue follow them in order. -/
theorem toList_foldl_pushBack (deque : Deque α) (elements : List α) :
    (elements.foldl pushBack deque).toList = deque.toList ++ elements := by
  induction elements generalizing deque with
  | nil => rw [List.foldl_nil, List.append_nil]
  | cons a rest ih =>
    rw [List.foldl_cons, ih, toList_pushBack, List.append_assoc, List.singleton_append]

/-- The queue of some elements has them in their order. -/
@[simp] theorem toList_ofList (elements : List α) : (ofList elements).toList = elements :=
  toList_foldl_pushBack empty elements

/-- A queue is as long as the list of its elements. -/
theorem size_eq (deque : Deque α) : deque.size = deque.toList.length := by
  rw [size, toList, List.length_append, List.length_reverse]

/-- An element is in a queue exactly if it is in the list of its elements. -/
theorem contains_iff [BEq α] [LawfulBEq α] {deque : Deque α} {a : α} :
    deque.contains a = true ↔ a ∈ deque.toList := by
  rw [contains, toList, Bool.or_eq_true, List.contains_iff_mem, List.contains_iff_mem,
    List.mem_append, List.mem_reverse]

end Deque

end Covenant
