/-!
# Maps from names

A finite map from texts to values, kept as its entries in strictly ascending order of their
names. Two maps that answer every lookup alike are the same value, and listing a map in order
of its names needs no sorting. Names compare by code points, which is also the order of their
UTF-8 bytes.
-/
namespace Covenant

/-- A finite map from names to values. -/
structure NameMap (α : Type) where
  /-- The entries, each name once. -/
  entries : List (String × α)
  /-- Names ascend strictly. -/
  ascending : entries.Pairwise fun earlier later => earlier.1 < later.1

namespace NameMap

variable {α β : Type}

/-- The map without entries. -/
def empty : NameMap α := ⟨[], .nil⟩

instance : Inhabited (NameMap α) := ⟨empty⟩

instance : EmptyCollection (NameMap α) := ⟨empty⟩

instance [DecidableEq α] : DecidableEq (NameMap α) := fun left right =>
  decidable_of_iff (left.entries = right.entries) <| by
    cases left; cases right; simp

instance [BEq α] : BEq (NameMap α) := ⟨fun left right => left.entries == right.entries⟩

/-- The value of a name. -/
def find? (map : NameMap α) (name : String) : Option α := map.entries.lookup name

/-- Whether a name has a value. -/
def contains (map : NameMap α) (name : String) : Bool := (map.find? name).isSome

/-- The names in ascending order. -/
def names (map : NameMap α) : List String := map.entries.map (·.1)

/-- The values in ascending order of their names. -/
def values (map : NameMap α) : List α := map.entries.map (·.2)

/-- The number of names. -/
def size (map : NameMap α) : Nat := map.entries.length

/-- Whether no name has a value. -/
def isEmpty (map : NameMap α) : Bool := map.entries.isEmpty

/-- Put an entry at its place in ascending entries, in place of one of the same name. -/
def insertEntry (name : String) (value : α) : List (String × α) → List (String × α)
  | [] => [(name, value)]
  | head :: rest =>
    if name < head.1 then (name, value) :: head :: rest
    else if name = head.1 then (name, value) :: rest
    else head :: insertEntry name value rest

/-- An entry that was put in is the new one or was there before. -/
theorem mem_insertEntry {name : String} {value : α} {entry : String × α}
    {entries : List (String × α)} (member : entry ∈ insertEntry name value entries) :
    entry = (name, value) ∨ entry ∈ entries := by
  induction entries with
  | nil => simpa [insertEntry] using member
  | cons head rest ih =>
    unfold insertEntry at member
    split at member
    · simpa using member
    · split at member
      · simp only [List.mem_cons] at member ⊢
        exact member.imp_right .inr
      · simp only [List.mem_cons] at member ⊢
        rcases member with same | below
        · exact .inr (.inl same)
        · exact (ih below).imp_right .inr

/-- Putting an entry in keeps the names ascending. -/
theorem insertEntry_ascending (name : String) (value : α) {entries : List (String × α)}
    (ascending : entries.Pairwise fun earlier later => earlier.1 < later.1) :
    (insertEntry name value entries).Pairwise fun earlier later => earlier.1 < later.1 := by
  induction entries with
  | nil => simp [insertEntry]
  | cons head rest ih =>
    obtain ⟨above, tail⟩ := List.pairwise_cons.mp ascending
    unfold insertEntry
    split
    · rename_i below
      refine List.pairwise_cons.mpr ⟨fun entry member => ?_, ascending⟩
      rcases List.mem_cons.mp member with rfl | later
      · exact below
      · exact String.lt_trans below (above entry later)
    · split
      · rename_i _ same
        exact List.pairwise_cons.mpr ⟨fun entry member => same ▸ above entry member, tail⟩
      · rename_i notBelow different
        refine List.pairwise_cons.mpr ⟨fun entry member => ?_, ih tail⟩
        rcases mem_insertEntry member with rfl | old
        · exact Std.lt_of_le_of_ne (String.not_lt.mp notBelow) (Ne.symm different)
        · exact above entry old

/-- Give a name a value, in place of the one it had. -/
def insert (map : NameMap α) (name : String) (value : α) : NameMap α :=
  ⟨insertEntry name value map.entries, insertEntry_ascending name value map.ascending⟩

/-- Give a name a value unless it has one. -/
def insertNew (map : NameMap α) (name : String) (value : α) : NameMap α :=
  if map.contains name then map else map.insert name value

/-- Take the value of a name away. -/
def erase (map : NameMap α) (name : String) : NameMap α :=
  ⟨map.entries.filter (·.1 != name), map.ascending.filter _⟩

/-- Give names values from left to right; of two entries with one name the later wins. -/
def insertAll (map : NameMap α) (entries : List (String × α)) : NameMap α :=
  entries.foldl (fun built entry => built.insert entry.1 entry.2) map

/-- The map of some entries; of two with one name the later wins. -/
def ofList (entries : List (String × α)) : NameMap α := empty.insertAll entries

end NameMap

end Covenant
