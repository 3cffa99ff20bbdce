import Mathlib.Data.List.Forall2
import Covenant.Proofs.Conformance.Meeting

/-!
# What a mismatch says

A required method that a surface does not meet is reported once, and `Surface.Fails` says with which
mismatch: no method has the name, or none of that name takes as many arguments, or none of those
returns what is accepted. The mismatch names the first method that comes closest. Nothing else is
reported, and what is reported stands in the order of the requirements (`mismatches_exact`).
-/
namespace Covenant

namespace Surface

variable {surface : Surface} {required : Signature}

instance (surface : Surface) (required : Signature) : Decidable (surface.Meets required) :=
  inferInstanceAs (Decidable (∃ found ∈ surface.methods, found.name = required.name ∧
    found.arity = required.arity ∧ required.returns.accepts found.returns = true))

/-- The first exposed method of a required method's name. -/
def namesake? (surface : Surface) (required : Signature) : Option Signature :=
  surface.methods.find? (·.name == required.name)

/-- The first exposed method of a required method's name and number of arguments. -/
def closest? (surface : Surface) (required : Signature) : Option Signature :=
  surface.methods.find? fun found => found.name == required.name && found.arity == required.arity

/-- What keeps a surface from meeting a required method. -/
inductive Fails (surface : Surface) (required : Signature) : Mismatch → Prop
  /-- No method has the name. -/
  | missing (unnamed : ∀ found ∈ surface.methods, found.name ≠ required.name) :
    Fails surface required (.missing required.name)
  /-- Some method has the name, and none of that name takes as many arguments. -/
  | arity {first : Signature} (named : surface.namesake? required = some first)
    (unmatched : ∀ found ∈ surface.methods, found.name = required.name →
      found.arity ≠ required.arity) :
    Fails surface required (.arity required.name required.arity first.arity)
  /-- Some method has the name and takes as many arguments, and none of these returns what is
  accepted. -/
  | returned {closest : Signature} (matched : surface.closest? required = some closest)
    (refused : ∀ found ∈ surface.methods, found.name = required.name →
      found.arity = required.arity → required.returns.accepts found.returns = false) :
    Fails surface required (.returned required.name required.returns closest.returns)

/-! ## The first method that comes closest -/

/-- There is no first method of a name exactly when there is no overload of it. -/
theorem namesake?_eq_none_iff : surface.namesake? required = none ↔
    ∀ found ∈ surface.methods, found.name ≠ required.name := by
  simp [namesake?]

/-- There is no first method of a name and a number of arguments exactly when no overload of the
name takes as many. -/
theorem closest?_eq_none_iff : surface.closest? required = none ↔
    ∀ found ∈ surface.methods, found.name = required.name → found.arity ≠ required.arity := by
  simp [closest?]

/-- A required method is not met exactly when no overload of its arity returns what is accepted. -/
theorem not_meets_iff : ¬surface.Meets required ↔
    ∀ found ∈ surface.methods, found.name = required.name → found.arity = required.arity →
      required.returns.accepts found.returns = false := by
  simp [Meets]

/-- The first method of a name and a number of arguments has both. -/
theorem closest?_spec {closest : Signature} (matched : surface.closest? required = some closest) :
    closest.name = required.name ∧ closest.arity = required.arity := by
  have holds := List.find?_some matched
  rwa [Bool.and_eq_true_iff, beq_iff_eq, beq_iff_eq] at holds

/-- The overloads of a name begin with the first method of it. -/
theorem head?_overloads : (surface.overloads required.name).head? = surface.namesake? required :=
  List.head?_filter

/-- The overloads of an arity begin with the first method of the name and the arity. -/
theorem head?_filter_overloads :
    ((surface.overloads required.name).filter (·.arity == required.arity)).head? =
      surface.closest? required := by
  rw [overloads, List.filter_filter, List.head?_filter]
  simp only [closest?, Bool.and_comm]

/-! ## The mismatch of a required method -/

/-- The search for an overload ends in the mismatch that the closest method shows, unless the
required method is met. -/
theorem mismatch?_eq (surface : Surface) (required : Signature) : surface.mismatch? required =
    if surface.Meets required then none
    else match surface.namesake? required, surface.closest? required with
      | none, _ => some (.missing required.name)
      | some first, none => some (.arity required.name required.arity first.arity)
      | some _, some closest =>
        some (.returned required.name required.returns closest.returns) := by
  by_cases meets : surface.Meets required
  · rw [if_pos meets, mismatch?_eq_none_iff.mpr meets]
  · have refused := meets_iff_any.not.mp meets
    rw [if_neg meets, mismatch?, ← head?_overloads, ← head?_filter_overloads]
    cases named : surface.overloads required.name with
    | nil => rfl
    | cons first others =>
      rw [named] at refused
      dsimp only
      cases matched : (first :: others).filter (·.arity == required.arity) with
      | nil => rfl
      | cons closest rest =>
        rw [matched] at refused
        exact if_neg refused

/-- A mismatch is reported for a required method exactly when it says what keeps the surface from
meeting the method. -/
theorem mismatch?_eq_some_iff {mismatch : Mismatch} :
    surface.mismatch? required = some mismatch ↔ surface.Fails required mismatch := by
  rw [mismatch?_eq]
  constructor
  · intro reported
    split at reported
    · cases reported
    · rename_i unmet
      split at reported
      · rename_i unnamed
        cases reported
        exact .missing (namesake?_eq_none_iff.mp unnamed)
      · rename_i first named unmatched
        cases reported
        exact .arity named (closest?_eq_none_iff.mp unmatched)
      · rename_i closest _ matched
        cases reported
        exact .returned matched (not_meets_iff.mp unmet)
  · intro fails
    cases fails with
    | missing unnamed =>
      have unmet : ¬surface.Meets required := fun ⟨found, exposed, named, _⟩ =>
        unnamed found exposed named
      rw [if_neg unmet, namesake?_eq_none_iff.mpr unnamed]
    | arity named unmatched =>
      have unmet : ¬surface.Meets required := fun ⟨found, exposed, same, arity, _⟩ =>
        unmatched found exposed same arity
      rw [if_neg unmet, named, closest?_eq_none_iff.mpr unmatched]
    | returned matched refused =>
      rw [if_neg (not_meets_iff.mpr refused), matched]
      cases named : surface.namesake? required with
      | none =>
        obtain ⟨same, _⟩ := closest?_spec matched
        exact absurd same (namesake?_eq_none_iff.mp named _ (List.mem_of_find?_eq_some matched))
      | some first => rfl

/-- What keeps a surface from meeting a required method is one mismatch. -/
theorem Fails.unique {mismatch other : Mismatch} (fails : surface.Fails required mismatch)
    (fails' : surface.Fails required other) : mismatch = other :=
  Option.some.inj ((mismatch?_eq_some_iff.mpr fails).symm.trans (mismatch?_eq_some_iff.mpr fails'))

/-- A required method is met, or there is something that keeps the surface from meeting it. -/
theorem not_meets_iff_exists_fails :
    ¬surface.Meets required ↔ ∃ mismatch, surface.Fails required mismatch := by
  simp only [← mismatch?_eq_some_iff, ← mismatch?_eq_none_iff, ← ne_eq, Option.ne_none_iff_exists']

end Surface

/-- The mismatches of a protocol and a surface say, for each required method that the surface does
not meet and in the order of these, what keeps it from meeting the method. -/
theorem forall₂_mismatches (protocol : Protocol) (surface : Surface) :
    List.Forall₂ surface.Fails (protocol.methods.filter fun required => ¬surface.Meets required)
      (mismatches protocol surface) := by
  unfold mismatches
  induction protocol.methods with
  | nil => exact .nil
  | cons required others ih =>
    cases reported : surface.mismatch? required with
    | none =>
      have meets := Surface.mismatch?_eq_none_iff.mp reported
      rw [List.filterMap_cons_none reported, List.filter_cons_of_neg (by simpa using meets)]
      exact ih
    | some mismatch =>
      have fails := Surface.mismatch?_eq_some_iff.mp reported
      have unmet := Surface.not_meets_iff_exists_fails.mpr ⟨mismatch, fails⟩
      rw [List.filterMap_cons_some reported, List.filter_cons_of_pos (by simpa using unmet)]
      exact .cons fails ih

/-- Mismatches are sound, complete and exact. There are none exactly when each required method has
an overload of its name that takes as many arguments and returns what is accepted. Else there is one
for each required method without such an overload, in the order of these: that no method has the
name; or that none of that name takes as many arguments, with what the first of them takes; or that
none of those returns what is accepted, with what the first of them returns. -/
theorem mismatches_exact (protocol : Protocol) (surface : Surface) :
    (mismatches protocol surface = [] ↔ ∀ required ∈ protocol.methods,
      ∃ found ∈ surface.methods, found.name = required.name ∧
        found.params.length = required.params.length ∧
        required.returns.accepts found.returns = true) ∧
    List.Forall₂ surface.Fails (protocol.methods.filter fun required => ¬surface.Meets required)
      (mismatches protocol surface) :=
  ⟨mismatches_eq_nil_iff, forall₂_mismatches protocol surface⟩

/-- Of several overloads the first one of the required arity is reported, and not the first one. -/
example :
    mismatches
      { name := "Lookup"
        methods := [⟨"get", ["key"], .int⟩, ⟨"size", [], .int⟩, ⟨"put", [], .any⟩] }
      { name := "Table"
        methods := [⟨"get", [], .int⟩, ⟨"get", ["item"], .str⟩, ⟨"get", ["name"], .float⟩,
          ⟨"size", [], .bool⟩, ⟨"put", ["a", "b"], .any⟩, ⟨"put", ["a"], .any⟩] } =
      [.returned "get" .int .str, .arity "put" 0 2] := by
  decide

end Covenant
