import Covenant.Conformance

/-!
# Meeting required methods

A surface meets a required method when one of its overloads has the name, takes as many arguments
and returns what is accepted (`Surface.Meets`). Where no overload does, the search for one ends in
a mismatch; so a surface conforms to a protocol exactly when it meets every required method
(`mismatches_eq_nil_iff`). Results about conformance follow from this, and not from the order in
which overloads are searched.
-/
namespace Covenant

namespace ReturnKind

variable {expected middle found : ReturnKind}

/-- A return is accepted if it or the promise is `any`, if it is a truth value and an integer is
promised, and if it is what is promised. -/
theorem accepts_iff : expected.accepts found = true ↔
    expected = any ∨ found = any ∨ (expected = int ∧ found = bool) ∨ expected = found := by
  simp [accepts, or_assoc]

/-- Every kind accepts itself. -/
theorem accepts_refl (kind : ReturnKind) : kind.accepts kind = true :=
  accepts_iff.mpr (.inr (.inr (.inr rfl)))

/-- What is accepted in place of an accepted kind is accepted, unless that kind is `any`. -/
theorem accepts_trans (known : middle ≠ any) (first : expected.accepts middle = true)
    (second : middle.accepts found = true) : expected.accepts found = true := by
  rcases accepts_iff.mp first with unconstrained | loose | ⟨integer, truth⟩ | rfl
  · exact accepts_iff.mpr (.inl unconstrained)
  · exact absurd loose known
  · -- A truth value accepts nothing but `any` and itself, and an integer accepts both.
    subst integer truth
    rcases accepts_iff.mp second with impossible | loose | ⟨impossible, _⟩ | rfl
    · cases impossible
    · exact accepts_iff.mpr (.inr (.inl loose))
    · cases impossible
    · exact accepts_iff.mpr (.inr (.inr (.inl ⟨rfl, rfl⟩)))
  · exact second

end ReturnKind

namespace Surface

variable {surface : Surface} {required : Signature}

/-- An overload of a required method takes as many arguments and returns what is accepted. -/
def Meets (surface : Surface) (required : Signature) : Prop :=
  ∃ found ∈ surface.methods, found.name = required.name ∧ found.arity = required.arity ∧
    required.returns.accepts found.returns = true

/-- The overloads of a name are the exposed methods of that name. -/
theorem mem_overloads {name : String} {method : Signature} :
    method ∈ surface.overloads name ↔ method ∈ surface.methods ∧ method.name = name := by
  simp [overloads]

/-- A required method is met exactly when one of the overloads of its arity is accepted. -/
theorem meets_iff_any : surface.Meets required ↔
    ((surface.overloads required.name).filter (·.arity == required.arity)).any
      (fun found => required.returns.accepts found.returns) = true := by
  simp only [Meets, List.any_eq_true, List.mem_filter, mem_overloads, beq_iff_eq, and_assoc]

/-- There is no mismatch exactly when the required method is met. -/
theorem mismatch?_eq_none_iff : surface.mismatch? required = none ↔ surface.Meets required := by
  rw [meets_iff_any]
  unfold mismatch?
  split
  · rename_i unnamed
    simp [unnamed]
  · rename_i first others named
    rw [named]
    split
    · rename_i unmatched
      simp [unmatched]
    · rename_i closest rest matched
      rw [matched]
      split
      · rename_i accepted
        exact iff_of_true rfl accepted
      · rename_i refused
        exact iff_of_false nofun refused

/-- An exposed method is met. -/
theorem meets_of_mem (member : required ∈ surface.methods) : surface.Meets required :=
  ⟨required, member, rfl, rfl, required.returns.accepts_refl⟩

end Surface

/-- A surface conforms to a protocol exactly when it meets every required method. -/
theorem mismatches_eq_nil_iff {protocol : Protocol} {surface : Surface} :
    mismatches protocol surface = [] ↔ ∀ required ∈ protocol.methods, surface.Meets required := by
  simp only [mismatches, List.filterMap_eq_nil_iff, Surface.mismatch?_eq_none_iff]

end Covenant
