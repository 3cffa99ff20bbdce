import Covenant.NameMap
import Mathlib.Data.List.Sort

/-!
# Look-ups in maps from names

Each operation on a map is described by what a look-up answers afterwards, and a map is
determined by its look-ups (`NameMap.ext_find?`), because a list in strictly ascending order is
determined by what it holds. The order of the entries is used here and nowhere else: what follows
about maps rests on these laws.
-/
namespace Covenant

namespace NameMap

variable {α : Type}

/-- A look-up in entries compares the first name and goes on. -/
theorem lookup_cons_eq (head : String × α) (rest : List (String × α)) (name : String) :
    (head :: rest).lookup name = if name = head.1 then some head.2 else rest.lookup name := by
  rw [List.lookup_cons]
  by_cases same : name = head.1
  · rw [if_pos same, same, beq_self_eq_true]
  · rw [if_neg same, beq_false_of_ne same]

/-- In entries with different names, looking a name up finds its entry. -/
theorem lookup_eq_some_iff {entries : List (String × α)}
    (distinct : (entries.map (·.1)).Nodup) {name : String} {value : α} :
    entries.lookup name = some value ↔ (name, value) ∈ entries := by
  induction entries with
  | nil => simp
  | cons head rest ih =>
    obtain ⟨fresh, others⟩ := List.nodup_cons.mp distinct
    rw [lookup_cons_eq, List.mem_cons]
    by_cases same : name = head.1
    · have apart : (name, value) ∉ rest := fun member =>
        fresh (List.mem_map.mpr ⟨(name, value), member, same⟩)
      rw [if_pos same, or_iff_left apart, Option.some.injEq, Prod.ext_iff]
      exact ⟨fun found => ⟨same, found.symm⟩, fun entry => entry.2.symm⟩
    · rw [if_neg same, ih others]
      exact ⟨.inr, fun member => member.resolve_left fun entry => same (congrArg (·.1) entry)⟩

/-- The names of a map are different. -/
theorem nodup_names (map : NameMap α) : (map.entries.map (·.1)).Nodup := by
  have ascending : (map.entries.map (·.1)).Pairwise (· < ·) :=
    List.pairwise_map.mpr map.ascending
  exact ascending.nodup

/-- A look-up answers with the value of the entry of the name, of which there is one at most. -/
theorem find?_eq_some_iff {map : NameMap α} {name : String} {value : α} :
    map.find? name = some value ↔ (name, value) ∈ map.entries :=
  lookup_eq_some_iff map.nodup_names

/-- Two maps that answer every look-up alike are the same map. -/
theorem ext_find? {left right : NameMap α}
    (alike : ∀ name, left.find? name = right.find? name) : left = right := by
  -- The entries agree up to order, and in both maps they ascend.
  have members (entry : String × α) : entry ∈ left.entries ↔ entry ∈ right.entries := by
    rw [← find?_eq_some_iff, ← find?_eq_some_iff, alike]
  have order : left.entries = right.entries :=
    left.ascending.eq_of_mem_iff right.ascending members
  cases left
  cases right
  congr

/-- Two maps that answer with the same values are the same map. -/
theorem ext_find?_some {left right : NameMap α}
    (alike : ∀ name value, left.find? name = some value ↔ right.find? name = some value) :
    left = right :=
  ext_find? fun name => Option.ext (alike name)

/-- The map without entries answers nothing. -/
@[simp]
theorem find?_empty (name : String) : (empty : NameMap α).find? name = none := rfl

/-- Whether a name has a value is whether a look-up answers. -/
theorem contains_eq_true {map : NameMap α} {name : String} :
    map.contains name = true ↔ ∃ value, map.find? name = some value :=
  Option.isSome_iff_exists

/-- A listed value is the answer to a look-up. -/
theorem mem_values {map : NameMap α} {value : α} :
    value ∈ map.values ↔ ∃ name, map.find? name = some value := by
  simp [values, find?_eq_some_iff]

/-- A name that was given a value has it, and other names keep theirs. -/
@[simp]
theorem find?_insert (map : NameMap α) (name : String) (value : α) (other : String) :
    (map.insert name value).find? other = if other = name then some value else map.find? other := by
  change (insertEntry name value map.entries).lookup other =
    if other = name then some value else map.entries.lookup other
  induction map.entries with
  | nil => by_cases same : other = name <;> simp [insertEntry, same]
  | cons head rest ih =>
    unfold insertEntry
    split
    · rw [lookup_cons_eq]
    · split
      · rename_i _ replaced
        rw [lookup_cons_eq, lookup_cons_eq]
        by_cases same : other = name
        · rw [if_pos same, if_pos same]
        · rw [if_neg same, if_neg same, if_neg (replaced ▸ same)]
      · rename_i _ different
        rw [lookup_cons_eq, lookup_cons_eq, ih]
        by_cases first : other = head.1
        · have kept : other ≠ name := fun same => different (same.symm.trans first)
          rw [if_pos first, if_neg kept, if_pos first]
        · rw [if_neg first, if_neg first]

/-- A name whose value was taken away has none, and other names keep theirs. -/
@[simp]
theorem find?_erase (map : NameMap α) (name other : String) :
    (map.erase name).find? other = if other = name then none else map.find? other := by
  change (map.entries.filter (·.1 != name)).lookup other =
    if other = name then none else map.entries.lookup other
  induction map.entries with
  | nil => simp
  | cons head rest ih =>
    rw [lookup_cons_eq]
    by_cases dropped : head.1 = name
    · rw [List.filter_cons_of_neg (by simp [dropped]), ih, dropped]
      by_cases same : other = name
      · rw [if_pos same, if_pos same]
      · rw [if_neg same, if_neg same, if_neg same]
    · rw [List.filter_cons_of_pos (by simpa using dropped), lookup_cons_eq, ih]
      by_cases first : other = head.1
      · rw [if_pos first, if_neg (first ▸ dropped), if_pos first]
      · rw [if_neg first, if_neg first]

/-- Giving a name a value unless it has one answers with the old value first. -/
@[simp]
theorem find?_insertNew (map : NameMap α) (name : String) (value : α) (other : String) :
    (map.insertNew name value).find? other =
      (map.find? other).or (if other = name then some value else none) := by
  unfold insertNew
  split
  · rename_i present
    obtain ⟨old, found⟩ := contains_eq_true.mp present
    by_cases same : other = name
    · rw [same, found, Option.some_or]
    · rw [if_neg same, Option.or_none]
  · rename_i absent
    rw [find?_insert]
    by_cases same : other = name
    · have fresh : map.find? name = none := by simpa [contains] using absent
      rw [if_pos same, if_pos same, same, fresh, Option.none_or]
    · rw [if_neg same, if_neg same, Option.or_none]

/-- Names that were all given one value have it, and other names keep theirs. -/
theorem find?_insertAll_const (map : NameMap α) (names : List String) (value : α)
    (other : String) :
    (map.insertAll (names.map (·, value))).find? other =
      if other ∈ names then some value else map.find? other := by
  unfold insertAll
  rw [List.foldl_map]
  induction names generalizing map with
  | nil => simp
  | cons name rest ih =>
    rw [List.foldl_cons, ih, find?_insert]
    by_cases later : other ∈ rest <;> by_cases same : other = name <;> simp [later, same]

/-- Names whose values were taken away have none, and other names keep theirs. -/
theorem find?_foldl_erase (map : NameMap α) (names : List String) (other : String) :
    (names.foldl (·.erase ·) map).find? other =
      if other ∈ names then none else map.find? other := by
  induction names generalizing map with
  | nil => simp
  | cons name rest ih =>
    rw [List.foldl_cons, ih, find?_erase]
    by_cases later : other ∈ rest <;> by_cases same : other = name <;> simp [later, same]

/-- Names that were given one value unless they had one answer with their old value first. -/
theorem find?_foldl_insertNew (map : NameMap α) (names : List String) (value : α)
    (other : String) :
    (names.foldl (·.insertNew · value) map).find? other =
      (map.find? other).or (if other ∈ names then some value else none) := by
  induction names generalizing map with
  | nil => simp
  | cons name rest ih =>
    rw [List.foldl_cons, ih, find?_insertNew, Option.or_assoc]
    by_cases later : other ∈ rest <;> by_cases same : other = name <;> simp [later, same]

/-- Entries with different names are put in next to what other names have. -/
theorem find?_insertAll (map : NameMap α) {entries : List (String × α)}
    (distinct : (entries.map (·.1)).Nodup) (name : String) :
    (map.insertAll entries).find? name = (entries.lookup name).or (map.find? name) := by
  unfold insertAll
  induction entries generalizing map with
  | nil => rfl
  | cons head rest ih =>
    obtain ⟨fresh, others⟩ := List.nodup_cons.mp distinct
    rw [List.foldl_cons, ih _ others, find?_insert, lookup_cons_eq]
    by_cases same : name = head.1
    · have absent : rest.lookup name = none := by
        refine Option.eq_none_iff_forall_ne_some.mpr fun value found => fresh ?_
        have member := (lookup_eq_some_iff others).mp found
        exact List.mem_map.mpr ⟨_, member, same⟩
      rw [if_pos same, if_pos same, absent, Option.none_or, Option.some_or]
    · rw [if_neg same, if_neg same]

/-- Entries with different names are put in alike in every order. -/
theorem insertAll_of_perm (map : NameMap α) {entries order : List (String × α)}
    (distinct : (entries.map (·.1)).Nodup) (perm : order.Perm entries) :
    map.insertAll order = map.insertAll entries := by
  have distinct' : (order.map (·.1)).Nodup := (perm.map (·.1)).nodup_iff.mpr distinct
  have same (name : String) : order.lookup name = entries.lookup name := by
    apply Option.ext
    intro value
    rw [lookup_eq_some_iff distinct', lookup_eq_some_iff distinct, perm.mem_iff]
  apply ext_find?
  intro name
  rw [find?_insertAll _ distinct', find?_insertAll _ distinct, same]

/-- The map of entries with different names has those entries. -/
theorem mem_entries_ofList {entries : List (String × α)}
    (distinct : (entries.map (·.1)).Nodup) {entry : String × α} :
    entry ∈ (ofList entries).entries ↔ entry ∈ entries := by
  rw [← lookup_eq_some_iff distinct, ← find?_eq_some_iff, ofList, find?_insertAll _ distinct,
    find?_empty, Option.or_none]

/-- Putting an entry in and then making new values comes to putting its new value in among them. -/
theorem map_insertEntry {β : Type} (make : String × α → β) (name : String) (value : α)
    (entries : List (String × α)) :
    (insertEntry name value entries).map (fun entry => (entry.1, make entry)) =
      insertEntry name (make (name, value)) (entries.map fun entry => (entry.1, make entry)) := by
  induction entries with
  | nil => rfl
  | cons head rest ih =>
    rw [List.map_cons, insertEntry, insertEntry, apply_ite (List.map _), apply_ite (List.map _),
      ← ih]
    rfl

/-- Values made of entries are listed in the order of the names. -/
theorem values_ofList_map {β : Type} (make : String × α → β) (entries : List (String × α)) :
    (ofList (entries.map fun entry => (entry.1, make entry))).values =
      (ofList entries).entries.map make := by
  -- Entries may be put into any map next to values that were made in the same way.
  have inserted (left : NameMap α) (right : NameMap β)
      (made : right.entries = left.entries.map fun entry => (entry.1, make entry)) :
      (right.insertAll (entries.map fun entry => (entry.1, make entry))).entries =
        (left.insertAll entries).entries.map fun entry => (entry.1, make entry) := by
    induction entries generalizing left right with
    | nil => exact made
    | cons head rest ih =>
      refine ih _ _ ?_
      change insertEntry head.1 (make head) right.entries = _
      rw [made]
      exact (map_insertEntry make head.1 head.2 left.entries).symm
  rw [values, ofList, inserted empty empty rfl, List.map_map]
  rfl

/-- The map of the entries of a map is the map. -/
theorem ofList_entries (map : NameMap α) : ofList map.entries = map := by
  apply ext_find?_some
  intro name value
  rw [find?_eq_some_iff, find?_eq_some_iff, mem_entries_ofList map.nodup_names]

end NameMap

end Covenant
