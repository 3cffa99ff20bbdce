import Mathlib.Data.List.Nodup
import Covenant.Protocol.Basic

/-!
# Well-formed protocols

The search for a fault goes through the methods once, with the names that it has seen. It finds
nothing exactly when the protocol has a name and methods, no method name is blank, and no two
methods have one name (`Protocol.fault?_eq_none_iff`). Such a protocol is well formed
(`Protocol.WellFormed`). In a well-formed protocol a method is therefore known by its name, and the
order of the methods does not count.
-/
namespace Covenant

/-- A text that is not blank shows something. -/
theorem Text.isBlank_eq_false_iff {text : String} :
    Text.isBlank text = false ↔ ∃ c ∈ text.toList, Text.isWhiteSpace c = false := by
  simp [Text.isBlank]

namespace Protocol

variable {protocol : Protocol}

/-- A protocol has a name that shows something, it requires methods, their names show something, and
no two of them, at different positions, have the same name. -/
structure WellFormed (protocol : Protocol) : Prop where
  /-- The name shows something. -/
  named : ∃ c ∈ protocol.name.toList, Text.isWhiteSpace c = false
  /-- Some method is required. -/
  requires : protocol.methods ≠ []
  /-- The names of methods show something. -/
  methods_named : ∀ method ∈ protocol.methods,
    ∃ c ∈ method.name.toList, Text.isWhiteSpace c = false
  /-- The names of methods are different. -/
  distinct : (protocol.methods.map (·.name)).Nodup

/-- No fault is found among methods exactly when no name is blank, none was seen before, and all are
different. -/
theorem methodFault?_eq_none_iff {name : String} {seen : List String} {methods : List Signature} :
    methodFault? name seen methods = none ↔
      (∀ method ∈ methods, Text.isBlank method.name = false) ∧
        (∀ method ∈ methods, method.name ∉ seen) ∧ (methods.map (·.name)).Nodup := by
  induction methods generalizing seen with
  | nil => simp [methodFault?]
  | cons method rest ih =>
    unfold methodFault?
    rw [List.forall_mem_cons, List.forall_mem_cons, List.map_cons, List.nodup_cons]
    by_cases blank : Text.isBlank method.name = true
    · simp [blank]
    · by_cases known : method.name ∈ seen
      · simp [blank, known]
      · have unseen : (∀ other ∈ rest, other.name ∉ method.name :: seen) ↔
            method.name ∉ rest.map (·.name) ∧ ∀ other ∈ rest, other.name ∉ seen := by
          simp only [List.mem_cons, not_or, List.mem_map, not_exists, not_and, forall_and]
        rw [if_neg blank, if_neg (by simpa using known), ih, unseen, Bool.eq_false_iff]
        constructor
        · rintro ⟨named, ⟨apart, fresh⟩, distinct⟩
          exact ⟨⟨blank, named⟩, ⟨known, fresh⟩, apart, distinct⟩
        · rintro ⟨⟨-, named⟩, ⟨-, fresh⟩, apart, distinct⟩
          exact ⟨named, ⟨apart, fresh⟩, distinct⟩

/-- A protocol is well formed exactly when its name is not blank, it requires a method, no method
name is blank, and all method names are different. -/
theorem fault?_eq_none_iff : protocol.fault? = none ↔
    Text.isBlank protocol.name = false ∧ protocol.methods ≠ [] ∧
      (∀ method ∈ protocol.methods, Text.isBlank method.name = false) ∧
        (protocol.methods.map (·.name)).Nodup := by
  unfold fault?
  by_cases blank : Text.isBlank protocol.name = true
  · simp [blank]
  · by_cases bare : protocol.methods = []
    · simp [blank, bare]
    · rw [if_neg blank, if_neg (by simpa using bare), methodFault?_eq_none_iff]
      simp [blank, bare]

/-- Two methods of one name that a well-formed protocol requires are the same method. -/
theorem method_eq_of_name (sound : protocol.fault? = none) {left right : Signature}
    (left_member : left ∈ protocol.methods) (right_member : right ∈ protocol.methods)
    (same : left.name = right.name) : left = right :=
  List.inj_on_of_nodup_map (fault?_eq_none_iff.mp sound).2.2.2 left_member right_member same

/-- No fault is found in well-formed protocols, and in no others. -/
theorem fault?_eq_none_iff_wellFormed : protocol.fault? = none ↔ protocol.WellFormed := by
  rw [fault?_eq_none_iff]
  simp only [Text.isBlank_eq_false_iff]
  constructor
  · rintro ⟨named, requires, methods_named, distinct⟩
    exact ⟨named, requires, methods_named, distinct⟩
  · rintro ⟨named, requires, methods_named, distinct⟩
    exact ⟨named, requires, methods_named, distinct⟩

/-- In a well-formed protocol a method is found by its name, and nothing else is. -/
theorem WellFormed.method?_eq_some_iff (sound : protocol.WellFormed) {name : String}
    {method : Signature} :
    protocol.method? name = some method ↔ method ∈ protocol.methods ∧ method.name = name := by
  constructor
  · intro found
    exact ⟨List.mem_of_find?_eq_some found, by simpa using List.find?_some found⟩
  · rintro ⟨member, rfl⟩
    cases found : protocol.method? method.name with
    | none => simpa using List.find?_eq_none.mp found method member
    | some other =>
      have same : other.name = method.name := by simpa using List.find?_some found
      have faultless := fault?_eq_none_iff_wellFormed.mpr sound
      rw [method_eq_of_name faultless (List.mem_of_find?_eq_some found) member same]

/-- The order of methods does not count for whether a protocol is well formed. -/
theorem WellFormed.of_perm {other : Protocol} (sound : protocol.WellFormed)
    (named : other.name = protocol.name)
    (names : (other.methods.map (·.name)).Perm (protocol.methods.map (·.name))) :
    other.WellFormed where
  named := named ▸ sound.named
  requires := by
    intro bare
    rw [bare, List.map_nil, List.nil_perm, List.map_eq_nil_iff] at names
    exact sound.requires names
  methods_named := by
    intro method member
    have listed := names.mem_iff.mp (List.mem_map_of_mem member)
    obtain ⟨original, member', same⟩ := List.mem_map.mp listed
    rw [← same]
    exact sound.methods_named original member'
  distinct := names.nodup_iff.mpr sound.distinct

end Protocol

end Covenant
