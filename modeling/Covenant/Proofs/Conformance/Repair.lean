import Covenant.Proofs.Conformance.Diagnosis
import Covenant.Proofs.Conformance.Invariance
import Covenant.Proofs.Protocol.WellFormed

/-!
# What has to be added

A report names the required methods that a surface does not meet (`Protocol.reported`). Exposing a
required method as it is required settles the complaint about it, and in a well-formed protocol,
where a method is known by its name, it touches no other complaint (`mismatches_withMethods`). So
exposing everything that is reported makes the surface conform, and whatever is left out of it is
reported again, as it was (`repair_exact`).
-/
namespace Covenant

/-- Expose more methods, after those exposed. -/
def Surface.withMethods (surface : Surface) (added : List Signature) : Surface :=
  { surface with methods := surface.methods ++ added }

/-- The required methods of a protocol whose names a check of a surface reports. -/
def Protocol.reported (protocol : Protocol) (surface : Surface) : List Signature :=
  protocol.methods.filter fun required =>
    ((mismatches protocol surface).map Mismatch.method).contains required.name

variable {protocol : Protocol} {surface : Surface} {required : Signature} {added : List Signature}

namespace Surface

/-- A mismatch is about the method that is not met. -/
theorem Fails.method {mismatch : Mismatch} (fails : surface.Fails required mismatch) :
    mismatch.method = required.name := by
  cases fails <;> rfl

/-- The mismatch of a required method is about that method. -/
theorem method_of_mismatch? {mismatch : Mismatch}
    (reported : surface.mismatch? required = some mismatch) :
    mismatch.method = required.name :=
  (mismatch?_eq_some_iff.mp reported).method

/-- The added methods of a name are overloads after those that were there. -/
theorem overloads_withMethods (name : String) : (surface.withMethods added).overloads name =
    surface.overloads name ++ added.filter (·.name == name) :=
  List.filter_append ..

/-- A required method that is added is met. -/
theorem mismatch?_withMethods_of_mem (chosen : required ∈ added) :
    (surface.withMethods added).mismatch? required = none :=
  mismatch?_eq_none_iff.mpr (meets_of_mem (List.mem_append_right surface.methods chosen))

/-- A required method is reported as before if no method of its name is added. -/
theorem mismatch?_withMethods_of_apart
    (apart : ∀ method ∈ added, method.name ≠ required.name) :
    (surface.withMethods added).mismatch? required = surface.mismatch? required := by
  have nothing : added.filter (·.name == required.name) = [] :=
    List.filter_eq_nil_iff.mpr fun method member => by simpa using apart method member
  apply mismatch?_congr rfl
  rw [overloads_withMethods, nothing, List.append_nil]

end Surface

/-- Exposing some required methods as a well-formed protocol requires them settles the complaints
about these and leaves every other one as it was. -/
theorem mismatches_withMethods (sound : protocol.fault? = none)
    (chosen : added ⊆ protocol.methods) :
    mismatches protocol (surface.withMethods added) =
      (mismatches protocol surface).filter fun mismatch =>
        mismatch.method ∉ added.map (·.name) := by
  unfold mismatches
  rw [List.filter_filterMap]
  apply List.filterMap_congr
  intro required member
  by_cases is_added : required ∈ added
  · have named : required.name ∈ added.map (·.name) := List.mem_map_of_mem is_added
    rw [Surface.mismatch?_withMethods_of_mem is_added, eq_comm, Option.filter_eq_none_iff]
    intro mismatch reported
    rw [Surface.method_of_mismatch? reported]
    simpa using named
  · have apart : ∀ method ∈ added, method.name ≠ required.name := by
      intro method method_added same
      rw [Protocol.method_eq_of_name sound (chosen method_added) member same] at method_added
      exact is_added method_added
    have unnamed : required.name ∉ added.map (·.name) := by
      simpa using apart
    rw [Surface.mismatch?_withMethods_of_apart apart, eq_comm]
    cases reported : surface.mismatch? required with
    | none => rfl
    | some mismatch =>
      rw [← Surface.method_of_mismatch? reported] at unnamed
      exact Option.filter_some_pos (by simpa using unnamed)

/-- The reported methods are required. -/
theorem reported_subset (protocol : Protocol) (surface : Surface) :
    protocol.reported surface ⊆ protocol.methods :=
  List.filter_subset_self _

/-- A required method of a well-formed protocol is among the reported ones exactly when it is not
met. -/
theorem contains_method_iff (sound : protocol.fault? = none)
    (member : required ∈ protocol.methods) :
    ((mismatches protocol surface).map Mismatch.method).contains required.name = true ↔
      (surface.mismatch? required).isSome = true := by
  rw [List.contains_iff_mem, List.mem_map, Option.isSome_iff_exists]
  constructor
  · rintro ⟨mismatch, listed, named⟩
    obtain ⟨other, other_member, reported⟩ := List.mem_filterMap.mp listed
    have same := (Surface.method_of_mismatch? reported).symm.trans named
    rw [Protocol.method_eq_of_name sound other_member member same] at reported
    exact ⟨mismatch, reported⟩
  · rintro ⟨mismatch, reported⟩
    exact ⟨mismatch, List.mem_filterMap.mpr ⟨required, member, reported⟩,
      Surface.method_of_mismatch? reported⟩

/-- The mismatches of a well-formed protocol are about the reported methods, one about each, in the
order of these. -/
theorem map_method_mismatches (sound : protocol.fault? = none) :
    (mismatches protocol surface).map Mismatch.method =
      (protocol.reported surface).map (·.name) := by
  have reported_eq : protocol.reported surface =
      protocol.methods.filter fun required => (surface.mismatch? required).isSome :=
    List.filter_congr fun required member =>
      Bool.eq_iff_iff.mpr (contains_method_iff sound member)
  rw [reported_eq, mismatches]
  clear reported_eq
  induction protocol.methods with
  | nil => rfl
  | cons required rest ih =>
    cases reported : surface.mismatch? required with
    | none =>
      rw [List.filterMap_cons_none reported, List.filter_cons_of_neg (by simp [reported]), ih]
    | some mismatch =>
      rw [List.filterMap_cons_some reported, List.filter_cons_of_pos (by simp [reported]),
        List.map_cons, List.map_cons, ih, Surface.method_of_mismatch? reported]

/-- The mismatches that are left once some of the reported methods are exposed are about the other
ones, in their order. -/
theorem map_method_withMethods (sound : protocol.fault? = none)
    (chosen : added ⊆ protocol.reported surface) :
    (mismatches protocol (surface.withMethods added)).map Mismatch.method =
      ((protocol.reported surface).filter (· ∉ added)).map (·.name) := by
  have required : added ⊆ protocol.methods :=
    List.Subset.trans chosen (reported_subset protocol surface)
  -- Whether a reported method is among the added ones can be told by its name.
  have by_name : ∀ method ∈ protocol.reported surface,
      decide (method.name ∉ added.map (·.name)) = decide (method ∉ added) := by
    intro method reported
    have member := reported_subset protocol surface reported
    refine decide_eq_decide.mpr (not_congr ⟨fun named => ?_, List.mem_map_of_mem⟩)
    obtain ⟨other, other_added, same⟩ := List.mem_map.mp named
    rwa [← Protocol.method_eq_of_name sound (required other_added) member same]
  calc (mismatches protocol (surface.withMethods added)).map Mismatch.method
      = ((mismatches protocol surface).filter fun mismatch =>
          mismatch.method ∉ added.map (·.name)).map Mismatch.method := by
        rw [mismatches_withMethods sound required]
    _ = ((mismatches protocol surface).map Mismatch.method).filter (· ∉ added.map (·.name)) := by
        rw [List.filter_map]
        rfl
    _ = ((protocol.reported surface).map (·.name)).filter (· ∉ added.map (·.name)) := by
        rw [map_method_mismatches sound]
    _ = ((protocol.reported surface).filter fun method =>
          method.name ∉ added.map (·.name)).map (·.name) := by
        rw [List.filter_map]
        rfl
    _ = ((protocol.reported surface).filter (· ∉ added)).map (·.name) := by
        rw [List.filter_congr by_name]

/-- A report says exactly what has to be added. Once all the required methods that are reported for
a well-formed protocol are exposed, the surface conforms. Once some of them are, in any order and
number, one mismatch is left for each of the others and none for anything else; so nothing less than
all of them makes the surface conform. What is left is what was reported before. -/
theorem repair_exact (sound : protocol.fault? = none) (surface : Surface) :
    mismatches protocol (surface.withMethods (protocol.reported surface)) = [] ∧
    ∀ added ⊆ protocol.reported surface,
      (mismatches protocol (surface.withMethods added)).map Mismatch.method =
          ((protocol.reported surface).filter (· ∉ added)).map (·.name) ∧
        (mismatches protocol (surface.withMethods added) = [] ↔
          protocol.reported surface ⊆ added) ∧
        (mismatches protocol (surface.withMethods added)).Sublist
          (mismatches protocol surface) := by
  have left_over (added : List Signature) (chosen : added ⊆ protocol.reported surface) :
      mismatches protocol (surface.withMethods added) = [] ↔
        protocol.reported surface ⊆ added := by
    rw [← List.map_eq_nil_iff (f := Mismatch.method), map_method_withMethods sound chosen,
      List.map_eq_nil_iff, List.filter_eq_nil_iff]
    simp only [decide_not, Bool.not_eq_true', decide_eq_false_iff_not, not_not]
    rfl
  refine ⟨(left_over _ (List.Subset.refl _)).mpr (List.Subset.refl _), ?_⟩
  intro added chosen
  refine ⟨map_method_withMethods sound chosen, left_over added chosen, ?_⟩
  rw [mismatches_withMethods sound (List.Subset.trans chosen (reported_subset protocol surface))]
  exact List.filter_sublist

/-- Of four required methods one is met; the others are missing, take other arguments or return
something else. Of these three one is left out. -/
theorem repair_exact_partial :
    let protocol : Protocol :=
      { name := "Table"
        methods := [⟨"get", ["key"], .int⟩, ⟨"size", [], .int⟩, ⟨"put", ["key", "value"], .bool⟩,
          ⟨"clear", [], .any⟩] }
    let surface : Surface :=
      { name := "Cache"
        methods := [⟨"put", ["value"], .bool⟩, ⟨"get", [], .int⟩, ⟨"get", ["name"], .str⟩,
          ⟨"size", [], .bool⟩] }
    let added : List Signature := [⟨"clear", [], .any⟩, ⟨"get", ["key"], .int⟩]
    protocol.fault? = none ∧ mismatches protocol surface =
        [.returned "get" .int .str, .arity "put" 2 1, .missing "clear"] ∧
      mismatches protocol (surface.withMethods (protocol.reported surface)) = [] ∧
      added ⊆ protocol.reported surface ∧
      (mismatches protocol (surface.withMethods added)).map Mismatch.method = ["put"] ∧
      mismatches protocol (surface.withMethods added) ≠ [] := by
  intro protocol surface added
  have sound : protocol.fault? = none := by decide
  have reported : protocol.reported surface =
      [⟨"get", ["key"], .int⟩, ⟨"put", ["key", "value"], .bool⟩, ⟨"clear", [], .any⟩] := by decide
  have chosen : added ⊆ protocol.reported surface := by rw [reported]; decide
  obtain ⟨conforms, partly⟩ := repair_exact sound surface
  obtain ⟨left_out, all_needed, -⟩ := partly added chosen
  refine ⟨sound, by decide, conforms, chosen, ?_, ?_⟩
  · rw [left_out, reported]
    decide
  · rw [ne_eq, all_needed, reported]
    decide

end Covenant
