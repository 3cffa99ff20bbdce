import Mathlib.Data.List.Forall2
import Covenant.Document.Reading

/-!
# What reading a list answers

A list is read item by item. It is read exactly when each of its items is, and the items are read in
order (`mapM_eq_ok_iff`). An exact reader of items is an exact reader of lists
(`mapM_eq_ok_iff_map`).
-/
namespace Covenant.Reading

variable {ε α β : Type}

/-- What follows an answer answers exactly when both do. -/
theorem bind_eq_ok_iff {first : Except ε α} {next : α → Except ε β} {last : β} :
    (first >>= next) = .ok last ↔ ∃ middle, first = .ok middle ∧ next middle = .ok last := by
  cases first with
  | error error => exact ⟨nofun, fun ⟨_, answer, _⟩ => nomatch answer⟩
  | ok middle =>
    refine ⟨fun answer => ⟨middle, rfl, answer⟩, ?_⟩
    rintro ⟨_, ⟨⟩, answer⟩
    exact answer

/-- Reading a list answers exactly when reading each item does, with the answers in order. -/
theorem mapM_eq_ok_iff {read : α → Except ε β} {items : List α} {values : List β} :
    items.mapM read = .ok values ↔
      List.Forall₂ (fun item value => read item = .ok value) items values := by
  induction items generalizing values with
  | nil =>
    rw [List.mapM_nil, List.forall₂_nil_left_iff]
    exact ⟨fun answer => (Except.ok.inj answer).symm, fun nothing => nothing ▸ rfl⟩
  | cons item rest ih =>
    rw [List.mapM_cons, bind_eq_ok_iff, List.forall₂_cons_left_iff]
    simp only [bind_eq_ok_iff, ih]
    constructor
    · rintro ⟨value, reads, others, read_others, answer⟩
      exact ⟨value, others, reads, read_others, (Except.ok.inj answer).symm⟩
    · rintro ⟨value, others, reads, read_others, rfl⟩
      exact ⟨value, reads, others, read_others, rfl⟩

/-- Where an item is read as a value exactly if it is what is written for the value, the same holds
of lists. -/
theorem mapM_eq_ok_iff_map {read : α → Except ε β} {write : β → α}
    (exact_item : ∀ item value, read item = .ok value ↔ item = write value) {items : List α}
    {values : List β} : items.mapM read = .ok values ↔ items = values.map write := by
  simp only [mapM_eq_ok_iff, exact_item]
  rw [← List.forall₂_map_right_iff (R := (· = ·)), List.forall₂_eq_eq_eq]

/-- Each item of a list that is read is read. -/
theorem reads_of_mem {read : α → Except ε β} {items : List α} {values : List β} {item : α}
    (reads : items.mapM read = .ok values) (member : item ∈ items) :
    ∃ value, read item = .ok value := by
  have each := mapM_eq_ok_iff.mp reads
  clear reads
  induction each with
  | nil => cases member
  | cons first _ ih =>
    rcases List.mem_cons.mp member with rfl | later
    · exact ⟨_, first⟩
    · exact ih later

end Covenant.Reading
