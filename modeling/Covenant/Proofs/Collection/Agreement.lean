import Covenant.Collection.Membership
import Mathlib.Data.Finset.Card
import Std.Data.HashMap.Lemmas
import Std.Data.HashSet.Lemmas
import Std.Data.TreeMap.Lemmas
import Std.Data.TreeSet.Lemmas

/-!
# Collections of the same items

A sequence goes through its elements, a hashed collection looks where the hash of an element leads,
and an ordered one where its order leads. Made from the same items they all hold the same values,
those that equal an item (`collections_agree`). Sequences count the items; sets and maps count the
distinct ones, which are no more, and as many only if all items are different.
-/
namespace Covenant

variable {α β γ δ Form : Type}

/-- A collection holds what equals one of some items, in whatever form it is asked for, and counts a
number of elements. -/
structure AnswersFor (Form : Type) [Shows Form α] [ContainmentCheckable γ Form] [SizeQueryable γ]
    (collection : γ) (items : List α) (size : Nat) : Prop where
  /-- What is held equals an item. -/
  holds_iff (form : Form) :
    ContainmentCheckable.holds collection form = true ↔ (Shows.shown form : α) ∈ items
  /-- The number of elements. -/
  size_eq : SizeQueryable.size collection = size

/-! ### Sequences -/

section Sequences

variable [DecidableEq α]

/-- A list answers for its elements. -/
theorem AnswersFor.list (items : List α) : AnswersFor α items items items.length :=
  ⟨fun _ => List.contains_iff_mem, rfl⟩

/-- An array answers for the list of its elements. -/
theorem AnswersFor.array (items : Array α) :
    AnswersFor α items items.toList items.toList.length :=
  ⟨fun _ => Array.contains_iff_mem.trans Array.mem_toList_iff.symm, Array.length_toList.symm⟩

/-- An array of a fixed size answers for the list of its elements. -/
theorem AnswersFor.vector {n : Nat} (items : Vector α n) :
    AnswersFor α items items.toList items.toList.length :=
  ⟨fun _ => Vector.contains_iff_mem.trans Vector.mem_toList_iff.symm, Vector.length_toList.symm⟩

/-- A queue answers for the list of its elements, wherever it is cut in two. -/
theorem AnswersFor.deque (items : Deque α) :
    AnswersFor α items items.toList items.toList.length :=
  ⟨fun _ => Deque.contains_iff, Deque.size_eq items⟩

end Sequences

/-! ### Sets and maps -/

section Keyed

variable [DecidableEq α] [Shows Form α]

/-- As many distinct items as there are keys that are all different and are the items. -/
theorem length_eq_card {keys items : List α} (distinct : keys.Nodup)
    (same : ∀ a, a ∈ keys ↔ a ∈ items) : keys.length = items.toFinset.card := by
  rw [← List.toFinset_card_of_nodup distinct]
  congr 1
  ext a
  rw [List.mem_toFinset, List.mem_toFinset, same]

/-- A collection that keeps keys, all different, answers for items that are its keys. -/
theorem AnswersFor.of_keys [ContainmentCheckable γ Form] [SizeQueryable γ] {collection : γ}
    {keys items : List α} (distinct : keys.Nodup) (same : ∀ a, a ∈ keys ↔ a ∈ items)
    (holds_iff : ∀ form : Form,
      ContainmentCheckable.holds collection form = true ↔ (Shows.shown form : α) ∈ keys)
    (size_eq : SizeQueryable.size collection = keys.length) :
    AnswersFor Form collection items items.toFinset.card :=
  ⟨fun form => (holds_iff form).trans (same _), size_eq.trans (length_eq_card distinct same)⟩

section Hashed

variable [Hashable α]

/-- A hashed set answers for the items that it is made from. -/
theorem AnswersFor.hashSet (items : List α) :
    AnswersFor Form (Std.HashSet.ofList items) items items.toFinset.card := by
  let made := Std.HashSet.ofList items
  have counted : SizeQueryable.size made = made.toList.length := Std.HashSet.length_toList.symm
  refine .of_keys ?_ ?_ ?_ counted
  · exact Std.HashSet.distinct_toList.imp fun different => ne_of_beq_false different
  · intro a
    rw [Std.HashSet.mem_toList, Std.HashSet.mem_ofList, List.contains_iff_mem]
  · intro form
    rw [Std.HashSet.mem_toList]
    exact Std.HashSet.contains_iff_mem

/-- A hashed map answers for the keys of the entries that it is made from, whatever their values. -/
theorem AnswersFor.hashMap (entries : List (α × β)) :
    AnswersFor Form (Std.HashMap.ofList entries) (entries.map Prod.fst)
      (entries.map Prod.fst).toFinset.card := by
  let made := Std.HashMap.ofList entries
  have counted : SizeQueryable.size made = made.keys.length := Std.HashMap.length_keys.symm
  refine .of_keys ?_ ?_ ?_ counted
  · exact Std.HashMap.distinct_keys.imp fun different => ne_of_beq_false different
  · intro a
    rw [Std.HashMap.mem_keys, Std.HashMap.mem_ofList, List.contains_iff_mem]
  · intro form
    rw [Std.HashMap.mem_keys]
    exact Std.HashMap.contains_iff_mem

end Hashed

section Ordered

variable [Ord α] [Std.TransOrd α] [Std.LawfulEqOrd α]

/-- An ordered set answers for the items that it is made from. -/
theorem AnswersFor.treeSet (items : List α) :
    AnswersFor Form (Std.TreeSet.ofList items) items items.toFinset.card := by
  let made := Std.TreeSet.ofList items
  have counted : SizeQueryable.size made = made.toList.length := Std.TreeSet.length_toList.symm
  refine .of_keys ?_ ?_ ?_ counted
  · exact Std.TreeSet.distinct_toList.imp fun different same =>
      different (Std.LawfulEqOrd.compare_eq_iff_eq.mpr same)
  · intro a
    rw [Std.TreeSet.mem_toList, Std.TreeSet.mem_ofList, List.contains_iff_mem]
  · intro form
    rw [Std.TreeSet.mem_toList]
    exact Std.TreeSet.contains_iff_mem

/-- An ordered map answers for the keys of the entries that it is made from, whatever their
values. -/
theorem AnswersFor.treeMap (entries : List (α × β)) :
    AnswersFor Form (Std.TreeMap.ofList entries) (entries.map Prod.fst)
      (entries.map Prod.fst).toFinset.card := by
  let made := Std.TreeMap.ofList entries
  have counted : SizeQueryable.size made = made.keys.length := Std.TreeMap.length_keys.symm
  refine .of_keys ?_ ?_ ?_ counted
  · exact Std.TreeMap.distinct_keys.imp fun different same =>
      different (Std.LawfulEqOrd.compare_eq_iff_eq.mpr same)
  · intro a
    rw [Std.TreeMap.mem_keys, Std.TreeMap.mem_ofList, List.contains_iff_mem]
  · intro form
    rw [Std.TreeMap.mem_keys]
    exact Std.TreeMap.contains_iff_mem

end Ordered

end Keyed

/-! ### All of them -/

/-- A collection that counts the distinct items is no larger than one that counts all, and as large
only if the items are all different. -/
theorem AnswersFor.size_le_size [DecidableEq α] [Shows Form α] [ContainmentCheckable γ α]
    [SizeQueryable γ] [ContainmentCheckable δ Form] [SizeQueryable δ] {sequence : γ} {set : δ}
    {items : List α} (all : AnswersFor α sequence items items.length)
    (distinct : AnswersFor Form set items items.toFinset.card) :
    SizeQueryable.size set ≤ SizeQueryable.size sequence ∧
      (SizeQueryable.size set = SizeQueryable.size sequence ↔ items.Nodup) := by
  rw [all.size_eq, distinct.size_eq]
  exact ⟨List.toFinset_card_le items,
    Multiset.toFinset_card_eq_card_iff_nodup (m := (items : Multiset α))⟩

/-- Collections that are made from the same items answer alike. Every list, array, array of a fixed
size and queue of the items, and every set and map with the items as keys, whatever the values are,
holds exactly what equals an item. A sequence is as large as the list of the items; a set or map is
as large as there are distinct items, so no larger than the sequence, and as large only if the items
are all different. -/
theorem collections_agree (Form : Type) [DecidableEq α] [Hashable α] [Ord α] [Std.TransOrd α]
    [Std.LawfulEqOrd α] [Shows Form α] (items : List α) :
    AnswersFor α items items items.length ∧
      (∀ array : Array α, array.toList = items → AnswersFor α array items items.length) ∧
      (∀ {n : Nat} (array : Vector α n), array.toList = items →
        AnswersFor α array items items.length) ∧
      (∀ deque : Deque α, deque.toList = items → AnswersFor α deque items items.length) ∧
      (Deque.ofList items).toList = items ∧
      AnswersFor Form (Std.HashSet.ofList items) items items.toFinset.card ∧
      AnswersFor Form (Std.TreeSet.ofList items) items items.toFinset.card ∧
      (∀ {β : Type} (entries : List (α × β)), entries.map Prod.fst = items →
        AnswersFor Form (Std.HashMap.ofList entries) items items.toFinset.card ∧
          AnswersFor Form (Std.TreeMap.ofList entries) items items.toFinset.card) ∧
      ∀ {γ δ : Type} [ContainmentCheckable γ α] [SizeQueryable γ] [ContainmentCheckable δ Form]
        [SizeQueryable δ] (sequence : γ) (set : δ),
        AnswersFor α sequence items items.length →
          AnswersFor Form set items items.toFinset.card →
            SizeQueryable.size set ≤ SizeQueryable.size sequence ∧
              (SizeQueryable.size set = SizeQueryable.size sequence ↔ items.Nodup) := by
  refine ⟨.list items, ?_, ?_, ?_, Deque.toList_ofList items, .hashSet items, .treeSet items, ?_,
    fun _ _ => AnswersFor.size_le_size⟩
  · rintro array rfl
    exact .array array
  · rintro n array rfl
    exact .vector array
  · rintro deque rfl
    exact .deque deque
  · rintro β entries rfl
    exact ⟨.hashMap entries, .treeMap entries⟩

/-- Texts that are repeated, in a queue that is cut between them, and asked for by slices; and
integers of 64 bits that are all different, with values of which some are equal. -/
theorem collections_agree_repeated :
    let texts : List String := ["b", "é", "b", "a", "é"]
    let queue : Deque String := ⟨["b", "é"], ["é", "a", "b"]⟩
    let integers : List Int64 := [3, -1, 2]
    let scores : List (Int64 × String) := [(3, "x"), (-1, "y"), (2, "x")]
    queue.toList = texts ∧ SizeQueryable.size queue = 5 ∧
      SizeQueryable.size (Std.HashSet.ofList texts) = 3 ∧
      SizeQueryable.size (Std.TreeSet.ofList texts) ≠ SizeQueryable.size queue ∧
      ContainmentCheckable.holds queue "é" = true ∧
      ContainmentCheckable.holds (Std.HashSet.ofList texts) "é".toSlice = true ∧
      ContainmentCheckable.holds (Std.TreeSet.ofList texts) "c".toSlice = false ∧
      scores.map Prod.fst = integers ∧
      ContainmentCheckable.holds (Std.TreeMap.ofList scores) (-1 : Int64) = true ∧
      SizeQueryable.size (Std.HashMap.ofList scores) = SizeQueryable.size integers := by
  intro texts queue integers scores
  obtain ⟨-, -, -, queues, -, hashed, ordered, -, sizes⟩ :=
    collections_agree String.Slice texts
  obtain ⟨listed, -, -, -, -, -, -, maps, sizes'⟩ := collections_agree Int64 integers
  have same : queue.toList = texts := rfl
  have keys : scores.map Prod.fst = integers := rfl
  have queued := queues queue same
  obtain ⟨hashed', ordered'⟩ := maps scores keys
  have three : texts.toFinset.card = 3 := by decide
  refine ⟨same, queued.size_eq, hashed.size_eq.trans three, ?_, ?_, ?_, ?_, keys, ?_, ?_⟩
  · rw [ne_eq, (sizes queue _ queued ordered).2]
    decide
  · exact (queued.holds_iff "é").mpr (by decide)
  · exact (hashed.holds_iff "é".toSlice).mpr (by decide)
  · exact Bool.eq_false_iff.mpr fun found => absurd ((ordered.holds_iff _).mp found) (by decide)
  · exact (ordered'.holds_iff (-1 : Int64)).mpr (by decide)
  · exact (sizes' integers _ listed hashed').2.mpr (by decide)

end Covenant
