import Mathlib.Data.List.Nodup
import Covenant.Proofs.Conformance.Meeting

/-!
# Implication between protocols

A protocol implies another one when a type that exposes what it requires, and nothing else, conforms
to the other one. Every protocol implies itself. A type that keeps a protocol keeps what the
protocol implies, and so implication is transitive, as long as every method of the protocol in the
middle says what it returns (`Protocol.implication_preorder`). A method that may return anything
meets promises that disagree with each other, so for protocols without overloads the condition is
exact (`Protocol.keeps_implied_iff`).
-/
namespace Covenant

namespace Protocol

/-- The surface that exposes what a protocol requires and nothing else. -/
def surface (protocol : Protocol) : Surface :=
  { name := protocol.name, methods := protocol.methods }

/-- What one protocol requires conforms to another one. -/
def Implies (stronger weaker : Protocol) : Prop := mismatches weaker stronger.surface = []

instance (stronger weaker : Protocol) : Decidable (stronger.Implies weaker) :=
  inferInstanceAs (Decidable (mismatches weaker stronger.surface = []))

/-- Every required method says what it returns. -/
def Annotated (protocol : Protocol) : Prop :=
  ∀ method ∈ protocol.methods, method.returns ≠ .any

instance (protocol : Protocol) : Decidable protocol.Annotated :=
  inferInstanceAs (Decidable (∀ method ∈ protocol.methods, method.returns ≠ .any))

variable {stronger middle weaker : Protocol} {surface : Surface}

/-- A protocol implies another one exactly when each method that the other one requires is met by
what it requires. -/
theorem implies_iff : stronger.Implies weaker ↔
    ∀ required ∈ weaker.methods, stronger.surface.Meets required :=
  mismatches_eq_nil_iff

/-- Every protocol implies itself. -/
theorem Implies.refl (protocol : Protocol) : protocol.Implies protocol :=
  implies_iff.mpr fun _ member => Surface.meets_of_mem member

/-- A surface that meets what a protocol requires meets what these requirements meet, if they say
what they return. -/
theorem meets_trans {required : Signature} (annotated : middle.Annotated)
    (first : middle.surface.Meets required)
    (second : ∀ method ∈ middle.methods, surface.Meets method) : surface.Meets required := by
  obtain ⟨method, member, named, arity, accepted⟩ := first
  obtain ⟨found, exposed, named', arity', accepted'⟩ := second method member
  exact ⟨found, exposed, named'.trans named, arity'.trans arity,
    ReturnKind.accepts_trans (annotated method member) accepted accepted'⟩

/-- A surface that keeps a protocol keeps what the protocol implies, if every method of the protocol
says what it returns. -/
theorem Implies.mismatches_eq_nil (implies : middle.Implies weaker) (annotated : middle.Annotated)
    (keeps : mismatches middle surface = []) : mismatches weaker surface = [] := by
  have meets := mismatches_eq_nil_iff.mp keeps
  apply mismatches_eq_nil_iff.mpr
  intro required member
  exact meets_trans annotated (implies_iff.mp implies required member) meets

/-- Structural conformance is a preorder away from methods that may return anything. Every protocol
implies itself. If every method of a protocol says what it returns, whatever keeps the protocol
keeps what it implies; in particular a protocol that implies it implies that too. The weakest
protocol and the surface are under no condition. -/
theorem implication_preorder :
    (∀ protocol : Protocol, protocol.Implies protocol) ∧
    (∀ weaker stronger : Protocol, (∀ method ∈ stronger.methods, method.returns ≠ .any) →
      stronger.Implies weaker → ∀ surface, mismatches stronger surface = [] →
        mismatches weaker surface = []) ∧
    ∀ weaker middle stronger : Protocol, (∀ method ∈ middle.methods, method.returns ≠ .any) →
      middle.Implies weaker → stronger.Implies middle → stronger.Implies weaker := by
  refine ⟨Implies.refl, ?_, ?_⟩
  · intro weaker stronger annotated implies surface keeps
    exact implies.mismatches_eq_nil annotated keeps
  · intro weaker middle stronger annotated implies keeps
    exact implies.mismatches_eq_nil annotated keeps

/-- A truth value is exposed where an integer is required, other parameters are named, and the
surface has overloads that differ in their arguments and one without an annotation. -/
theorem implication_preorder_overloaded :
    let weaker : Protocol :=
      { name := "Searchable", methods := [⟨"size", [], .int⟩, ⟨"find", ["item"], .any⟩] }
    let middle : Protocol :=
      { name := "Table"
        methods := [⟨"size", [], .bool⟩, ⟨"find", ["key"], .named "Entry"⟩,
          ⟨"find", ["key", "default"], .str⟩] }
    let stronger : Protocol :=
      { name := "Cache"
        methods := [⟨"find", [], .int⟩, ⟨"size", ["unit"], .int⟩, ⟨"size", [], .any⟩,
          ⟨"find", ["name"], .named "Entry"⟩, ⟨"find", ["name", "other"], .any⟩] }
    middle.Annotated ∧ middle.Implies weaker ∧ mismatches middle stronger.surface = [] ∧
      weaker.Implies weaker ∧ mismatches weaker stronger.surface = [] ∧
      stronger.Implies weaker := by
  intro weaker middle stronger
  obtain ⟨reflexive, kept, transitive⟩ := implication_preorder
  have annotated : middle.Annotated := by decide
  have implies : middle.Implies weaker := by decide
  have keeps : mismatches middle stronger.surface = [] := by decide
  exact ⟨annotated, implies, keeps, reflexive weaker,
    kept weaker middle annotated implies stronger.surface keeps,
    transitive weaker middle stronger annotated implies keeps⟩

/-! ## The condition is exact -/

/-- A method of a name returns a text. -/
def textual (name : String) (method : Signature) : Signature :=
  if method.name = name then { method with returns := .str } else method

/-- A method that returns a text has the name and the arguments that it had. -/
theorem textual_name (name : String) (method : Signature) :
    (textual name method).name = method.name ∧ (textual name method).arity = method.arity := by
  unfold textual
  split
  · exact ⟨rfl, rfl⟩
  · exact ⟨rfl, rfl⟩

/-- A protocol that requires no method name twice is kept by nothing that breaks what it implies
exactly when every method of it says what it returns. -/
theorem keeps_implied_iff {protocol : Protocol}
    (distinct : (protocol.methods.map (·.name)).Nodup) :
    (∀ weaker surface, protocol.Implies weaker → mismatches protocol surface = [] →
      mismatches weaker surface = []) ↔ protocol.Annotated := by
  constructor
  · intro composes method member loose
    -- The method may stand for one that returns a truth value and for one that returns a text.
    let weaker : Protocol := { name := "", methods := [{ method with returns := .bool }] }
    let texts : Surface :=
      { name := "", methods := protocol.methods.map (textual method.name) }
    have unique : ∀ other ∈ protocol.methods, other.name = method.name → other = method :=
      fun other other_member same => List.inj_on_of_nodup_map distinct other_member member same
    have implies : protocol.Implies weaker := by
      apply implies_iff.mpr
      intro required required_member
      rw [List.mem_singleton.mp required_member]
      exact ⟨method, member, rfl, rfl, ReturnKind.accepts_iff.mpr (.inr (.inl loose))⟩
    have keeps : mismatches protocol texts = [] := by
      apply mismatches_eq_nil_iff.mpr
      intro required required_member
      obtain ⟨named, arity⟩ := textual_name method.name required
      refine ⟨textual method.name required, List.mem_map_of_mem required_member, named, arity, ?_⟩
      unfold textual
      split
      · rename_i same
        rw [unique required required_member same]
        exact ReturnKind.accepts_iff.mpr (.inl loose)
      · exact required.returns.accepts_refl
    obtain ⟨found, exposed, named, _, accepted⟩ :=
      mismatches_eq_nil_iff.mp (composes weaker texts implies keeps) _ List.mem_cons_self
    obtain ⟨other, _, rfl⟩ := List.mem_map.mp exposed
    have same : other.name = method.name := (textual_name method.name other).1.symm.trans named
    rw [textual, if_pos same] at accepted
    cases accepted
  · intro annotated weaker surface implies keeps
    exact implies.mismatches_eq_nil annotated keeps

end Protocol

end Covenant
