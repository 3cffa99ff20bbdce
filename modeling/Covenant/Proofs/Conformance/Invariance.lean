import Mathlib.Logic.Relation
import Covenant.Proofs.Conformance.Meeting

/-!
# What a check does not notice

A check sees a method by its outline: the name, the number of parameters and the return, but not
what the parameters are called. Whether a surface conforms depends on the outlines that it exposes,
wherever they stand, and exposing more never hurts. What is reported depends on the order of the
overloads of one name as well, and on nothing else (`mismatches_congr`). So a protocol overlooks
three kinds of edits (`Protocol.Overlooks`), and any number of them leaves the whole report as it
was (`mismatches_monotone`). These edits lead between any two lists of methods that a check cannot
tell apart (`Protocol.alike_iff`).
-/
namespace Covenant

/-- What a check sees of a signature: its name, the number of its parameters and its return. -/
def Signature.outline (signature : Signature) : String × Nat × ReturnKind :=
  (signature.name, signature.arity, signature.returns)

/-- Outlines agree when names, numbers of parameters and returns do. -/
theorem Signature.outline_eq_iff {left right : Signature} : left.outline = right.outline ↔
    left.name = right.name ∧ left.arity = right.arity ∧ left.returns = right.returns := by
  simp only [outline, Prod.mk.injEq]

namespace Surface

variable {surface surface' : Surface} {required required' : Signature}

/-- A required method that is met is met by every surface that exposes what the first one exposes,
up to the names of parameters. -/
theorem Meets.mono (meets : surface.Meets required)
    (covers : ∀ method ∈ surface.methods, ∃ found ∈ surface'.methods,
      found.outline = method.outline) : surface'.Meets required := by
  obtain ⟨method, exposed, named, arity, accepted⟩ := meets
  obtain ⟨found, found_exposed, same⟩ := covers method exposed
  obtain ⟨same_name, same_arity, same_returns⟩ := Signature.outline_eq_iff.mp same
  refine ⟨found, found_exposed, same_name.trans named, same_arity.trans arity, ?_⟩
  rwa [same_returns]

/-- The overloads of an arity have the outlines of that arity. -/
theorem map_outline_filter (methods : List Signature) (count : Nat) :
    (methods.filter (·.arity == count)).map Signature.outline =
      (methods.map Signature.outline).filter (·.2.1 == count) := by
  rw [List.filter_map]
  rfl

/-- Whether an overload is accepted is a matter of the outlines. -/
theorem any_accepts_eq (methods : List Signature) (expected : ReturnKind) :
    methods.any (fun found => expected.accepts found.returns) =
      (methods.map Signature.outline).any (fun outline => expected.accepts outline.2.2) := by
  rw [List.any_map]
  rfl

/-- A required method is reported alike, or not at all, by surfaces whose overloads of its name have
the same outlines in the same order. -/
theorem mismatch?_congr (same : required.outline = required'.outline)
    (alike : (surface.overloads required.name).map Signature.outline =
      (surface'.overloads required.name).map Signature.outline) :
    surface.mismatch? required = surface'.mismatch? required' := by
  obtain ⟨name, arity, returns⟩ := Signature.outline_eq_iff.mp same
  unfold mismatch?
  rw [← name, ← arity, ← returns]
  generalize surface.overloads required.name = overloads,
    surface'.overloads required.name = overloads' at alike
  have matched : (overloads.filter (·.arity == required.arity)).map Signature.outline =
      (overloads'.filter (·.arity == required.arity)).map Signature.outline := by
    rw [map_outline_filter, map_outline_filter, alike]
  cases overloads with
  | nil =>
    rw [List.map_eq_nil_iff.mp alike.symm]
  | cons first others =>
    obtain ⟨first', others', rfl, first_same, -⟩ := List.map_eq_cons_iff.mp alike.symm
    have first_arity := (Signature.outline_eq_iff.mp first_same).2.1
    dsimp only
    generalize (first :: others).filter (·.arity == required.arity) = fitting,
      (first' :: others').filter (·.arity == required.arity) = fitting' at matched
    cases fitting with
    | nil =>
      rw [List.map_eq_nil_iff.mp matched.symm, first_arity]
    | cons closest rest =>
      obtain ⟨closest', rest', rfl, closest_same, -⟩ := List.map_eq_cons_iff.mp matched.symm
      have closest_returns := (Signature.outline_eq_iff.mp closest_same).2.2
      dsimp only
      rw [any_accepts_eq, any_accepts_eq, matched, closest_returns]

end Surface

variable {protocol protocol' : Protocol} {surface surface' : Surface}

/-- What is reported depends on the outlines of what is required and, for each required name, on the
outlines of the overloads of that name in their order. -/
theorem mismatches_congr
    (requirements : protocol.methods.map Signature.outline =
      protocol'.methods.map Signature.outline)
    (alike : ∀ required ∈ protocol.methods,
      (surface.overloads required.name).map Signature.outline =
        (surface'.overloads required.name).map Signature.outline) :
    mismatches protocol surface = mismatches protocol' surface' := by
  unfold mismatches
  generalize protocol.methods = methods, protocol'.methods = methods' at requirements alike
  induction methods generalizing methods' with
  | nil => rw [List.map_eq_nil_iff.mp requirements.symm]; rfl
  | cons required rest ih =>
    obtain ⟨required', rest', rfl, same, others⟩ := List.map_eq_cons_iff.mp requirements.symm
    obtain ⟨first_alike, rest_alike⟩ := List.forall_mem_cons.mp alike
    rw [List.filterMap_cons, List.filterMap_cons, ih rest' others.symm rest_alike,
      Surface.mismatch?_congr same.symm first_alike]

/-- What conforms to a protocol conforms to every part of it, and so does what exposes more. -/
theorem mismatches_eq_nil_mono
    (covers : ∀ method ∈ surface.methods, ∃ found ∈ surface'.methods,
      found.outline = method.outline)
    (fewer : protocol'.methods ⊆ protocol.methods) (conforms : mismatches protocol surface = []) :
    mismatches protocol' surface' = [] := by
  apply mismatches_eq_nil_iff.mpr
  intro required member
  exact (mismatches_eq_nil_iff.mp conforms required (fewer member)).mono covers

/-! ## Edits that are overlooked -/

namespace Protocol

/-- One edit of exposed methods that a protocol overlooks. -/
inductive Overlooks (protocol : Protocol) : List Signature → List Signature → Prop
  /-- A method is inserted somewhere whose name the protocol does not require. -/
  | inserted (before after : List Signature) {method : Signature}
    (unrequired : ∀ required ∈ protocol.methods, required.name ≠ method.name) :
    Overlooks protocol (before ++ after) (before ++ method :: after)
  /-- Two neighbours of different names change places. -/
  | swapped (before after : List Signature) {left right : Signature}
    (different : left.name ≠ right.name) :
    Overlooks protocol (before ++ left :: right :: after) (before ++ right :: left :: after)
  /-- The parameters of a method are renamed. -/
  | renamed (before after : List Signature) {method other : Signature}
    (same : method.outline = other.outline) :
    Overlooks protocol (before ++ method :: after) (before ++ other :: after)

/-- One list of methods becomes the other by any number of edits that a protocol overlooks, each of
them made or undone. -/
def Alike (protocol : Protocol) : List Signature → List Signature → Prop :=
  Relation.EqvGen protocol.Overlooks

variable {methods methods' : List Signature}

/-- An overlooked edit leaves the outlines of the overloads of each required name in their order. -/
theorem Overlooks.outlines (overlooks : protocol.Overlooks methods methods') {required : Signature}
    (member : required ∈ protocol.methods) :
    (methods.filter (·.name == required.name)).map Signature.outline =
      (methods'.filter (·.name == required.name)).map Signature.outline := by
  cases overlooks with
  | inserted before after unrequired =>
    have other := (unrequired required member).symm
    rw [List.filter_append, List.filter_append, List.filter_cons_of_neg (by simpa using other)]
  | swapped before after different =>
    rename_i left right
    rw [List.filter_append, List.filter_append]
    -- Of the two neighbours one at most has the name.
    by_cases named : left.name = required.name
    · have other : right.name ≠ required.name := fun same => different (named.trans same.symm)
      rw [List.filter_cons_of_pos (by simpa using named),
        List.filter_cons_of_neg (by simpa using other),
        List.filter_cons_of_neg (by simpa using other),
        List.filter_cons_of_pos (by simpa using named)]
    · rw [List.filter_cons_of_neg (by simpa using named), List.filter_cons, List.filter_cons,
        List.filter_cons_of_neg (by simpa using named)]
  | renamed before after same =>
    obtain ⟨name, -⟩ := Signature.outline_eq_iff.mp same
    rw [List.filter_append, List.filter_append, List.filter_cons, List.filter_cons, name]
    split
    · rw [List.map_append, List.map_append, List.map_cons, List.map_cons, same]
    · rfl

/-- Any number of overlooked edits leave the outlines of the overloads of each required name in
their order. -/
theorem Alike.outlines (alike : protocol.Alike methods methods') {required : Signature}
    (member : required ∈ protocol.methods) :
    (methods.filter (·.name == required.name)).map Signature.outline =
      (methods'.filter (·.name == required.name)).map Signature.outline := by
  induction alike with
  | rel _ _ overlooks => exact overlooks.outlines member
  | refl _ => rfl
  | symm _ _ _ ih => exact ih.symm
  | trans _ _ _ _ _ first second => exact first.trans second

/-- Lists of methods that are alike are alike after one more method. -/
theorem Alike.cons (method : Signature) (alike : protocol.Alike methods methods') :
    protocol.Alike (method :: methods) (method :: methods') := by
  induction alike with
  | rel _ _ overlooks =>
    apply Relation.EqvGen.rel
    cases overlooks with
    | inserted before after unrequired => exact .inserted (method :: before) after unrequired
    | swapped before after different => exact .swapped (method :: before) after different
    | renamed before after same => exact .renamed (method :: before) after same
  | refl _ => exact .refl _
  | symm _ _ _ ih => exact .symm _ _ ih
  | trans _ _ _ _ _ first second => exact .trans _ _ _ first second

/-- A method may be brought before methods of other names. -/
theorem alike_front {before : List Signature} (after : List Signature) {method : Signature}
    (different : ∀ other ∈ before, other.name ≠ method.name) :
    protocol.Alike (before ++ method :: after) (method :: (before ++ after)) := by
  induction before with
  | nil => exact .refl _
  | cons other rest ih =>
    obtain ⟨first, others⟩ := List.forall_mem_cons.mp different
    exact .trans _ _ _ ((ih others).cons other) (.rel _ _ (.swapped [] (rest ++ after) first))

/-- Methods of names that are not required may be left out. -/
theorem alike_filter_required (protocol : Protocol) (methods : List Signature) :
    protocol.Alike methods
      (methods.filter fun method => protocol.methods.any (·.name == method.name)) := by
  induction methods with
  | nil => exact .refl _
  | cons method rest ih =>
    by_cases needed : protocol.methods.any (·.name == method.name) = true
    · rw [List.filter_cons_of_pos (by simpa only using needed)]
      exact ih.cons method
    · have unrequired : ∀ required ∈ protocol.methods, required.name ≠ method.name := by
        simpa using needed
      rw [List.filter_cons_of_neg (by simpa only using needed)]
      exact .trans _ _ _ (.symm _ _ (.rel _ _ (.inserted [] rest unrequired))) ih

/-- Lists of methods that are all required are alike if the overloads of each required name have the
same outlines in the same order. -/
theorem alike_of_outlines
    (needed : ∀ method ∈ methods, ∃ required ∈ protocol.methods, required.name = method.name)
    (needed' : ∀ method ∈ methods', ∃ required ∈ protocol.methods, required.name = method.name)
    (same : ∀ required ∈ protocol.methods,
      (methods.filter (·.name == required.name)).map Signature.outline =
        (methods'.filter (·.name == required.name)).map Signature.outline) :
    protocol.Alike methods methods' := by
  induction methods generalizing methods' with
  | nil =>
    cases methods' with
    | nil => exact .refl _
    | cons method rest =>
      obtain ⟨required, member, named⟩ := needed' method List.mem_cons_self
      have impossible := same required member
      rw [List.filter_cons_of_pos (by simpa using named.symm)] at impossible
      cases impossible
  | cons method rest ih =>
    obtain ⟨⟨required, member, named⟩, others⟩ := List.forall_mem_cons.mp needed
    -- The first overload of the name is brought to the front of the other list.
    have overloads := same required member
    rw [List.filter_cons_of_pos (by simpa using named.symm), List.map_cons] at overloads
    obtain ⟨found, later, found_first, found_same, -⟩ := List.map_eq_cons_iff.mp overloads.symm
    obtain ⟨before, after, rfl, unnamed, -, -⟩ := List.filter_eq_cons_iff.mp found_first
    have different : ∀ other ∈ before, other.name ≠ found.name := by
      intro other before_member
      rw [(Signature.outline_eq_iff.mp found_same).1, ← named]
      simpa using unnamed other before_member
    have fronted : protocol.Alike (before ++ found :: after) (method :: (before ++ after)) :=
      .trans _ _ _ (alike_front after different)
        (.rel _ _ (.renamed [] (before ++ after) found_same))
    refine .trans _ _ _ (Alike.cons method (ih others ?_ ?_)) (.symm _ _ fronted)
    · intro other other_member
      rcases List.mem_append.mp other_member with early | late
      · exact needed' other (List.mem_append_left _ early)
      · exact needed' other (List.mem_append_right _ (List.mem_cons_of_mem _ late))
    · intro required' member'
      have rests := (same required' member').trans (fronted.outlines member')
      rw [List.filter_cons, List.filter_cons] at rests
      split at rests
      · exact (List.cons.inj rests).2
      · exact rests

/-- Overlooked edits lead from one list of methods to another exactly when the overloads of each
required name have the same outlines in the same order. -/
theorem alike_iff : protocol.Alike methods methods' ↔ ∀ required ∈ protocol.methods,
    (methods.filter (·.name == required.name)).map Signature.outline =
      (methods'.filter (·.name == required.name)).map Signature.outline := by
  constructor
  · intro alike required member
    exact alike.outlines member
  · intro same
    have left := alike_filter_required protocol methods
    have right := alike_filter_required protocol methods'
    have needed (methods : List Signature) : ∀ method ∈
        methods.filter (fun method => protocol.methods.any (·.name == method.name)),
          ∃ required ∈ protocol.methods, required.name = method.name := by
      intro method member
      simpa using (List.mem_filter.mp member).2
    refine .trans _ _ _ left (.trans _ _ _ ?_ (.symm _ _ right))
    apply alike_of_outlines (needed methods) (needed methods')
    intro required member
    exact (left.outlines member).symm.trans ((same required member).trans (right.outlines member))

end Protocol

/-- Conformance is monotone and ignores what the protocol does not mention. A surface that exposes
what a conforming one exposes, up to the names of parameters, conforms to every protocol that asks
for no other methods; in particular no order, repetition or addition of methods is to its harm. The
whole report stays as it was when methods of names that are not required are inserted or removed
anywhere, when methods of different names are put into another order, and when parameters are
renamed, also those of the required methods. -/
theorem mismatches_monotone :
    (∀ (protocol protocol' : Protocol) (surface surface' : Surface),
      (∀ method ∈ surface.methods, ∃ found ∈ surface'.methods, found.name = method.name ∧
        found.params.length = method.params.length ∧ found.returns = method.returns) →
      protocol'.methods ⊆ protocol.methods → mismatches protocol surface = [] →
        mismatches protocol' surface' = []) ∧
    (∀ (protocol : Protocol) (surface surface' : Surface), surface.methods ⊆ surface'.methods →
      mismatches protocol surface = [] → mismatches protocol surface' = []) ∧
    ∀ (protocol protocol' : Protocol) (surface surface' : Surface),
      protocol.methods.map Signature.outline = protocol'.methods.map Signature.outline →
      protocol.Alike surface.methods surface'.methods →
        mismatches protocol surface = mismatches protocol' surface' := by
  refine ⟨?_, ?_, ?_⟩
  · intro protocol protocol' surface surface' covers fewer conforms
    refine mismatches_eq_nil_mono (fun method exposed => ?_) fewer conforms
    obtain ⟨found, found_exposed, same⟩ := covers method exposed
    exact ⟨found, found_exposed, Signature.outline_eq_iff.mpr same⟩
  · intro protocol surface surface' more conforms
    exact mismatches_eq_nil_mono (fun method exposed => ⟨method, more exposed, rfl⟩)
      (List.Subset.refl _) conforms
  · intro protocol protocol' surface surface' requirements alike
    exact mismatches_congr requirements fun required member => alike.outlines member

/-- A larger surface in another order conforms to a part of the protocol. A report of two complaints
stays word for word when a method is put in between, the methods of another name are moved before
the overloads, and parameters are renamed on both sides. -/
theorem mismatches_monotone_shuffled :
    let protocol : Protocol :=
      { name := "Table", methods := [⟨"get", ["key"], .int⟩, ⟨"size", [], .int⟩] }
    let part : Protocol := { name := "Sized", methods := [⟨"size", [], .int⟩] }
    let surface : Surface :=
      { name := "Cache"
        methods := [⟨"get", [], .str⟩, ⟨"get", ["name"], .int⟩, ⟨"size", [], .bool⟩] }
    let larger : Surface :=
      { name := "Map"
        methods := [⟨"size", [], .bool⟩, ⟨"put", ["key"], .any⟩, ⟨"get", ["k"], .int⟩,
          ⟨"get", ["key"], .int⟩, ⟨"get", [], .str⟩] }
    let other : Protocol :=
      { name := "Other", methods := [⟨"get", ["a", "b"], .int⟩, ⟨"size", [], .float⟩] }
    let renamed : Protocol :=
      { name := "Other", methods := [⟨"get", ["c", "d"], .int⟩, ⟨"size", [], .float⟩] }
    let edited : Surface :=
      { name := "Cache"
        methods := [⟨"size", [], .bool⟩, ⟨"get", [], .str⟩, ⟨"put", ["key"], .any⟩,
          ⟨"get", ["label"], .int⟩] }
    (∀ method ∈ surface.methods, ∃ found ∈ larger.methods, found.name = method.name ∧
        found.params.length = method.params.length ∧ found.returns = method.returns) ∧
      part.methods ⊆ protocol.methods ∧ mismatches protocol surface = [] ∧
      mismatches part larger = [] ∧
      surface.methods ⊆ surface.methods ++ surface.methods ∧
      mismatches protocol { surface with methods := surface.methods ++ surface.methods } = [] ∧
      other.methods.map Signature.outline = renamed.methods.map Signature.outline ∧
      other.Alike surface.methods edited.methods ∧
      mismatches other surface = [.arity "get" 2 0, .returned "size" .float .bool] ∧
      mismatches renamed edited = [.arity "get" 2 0, .returned "size" .float .bool] := by
  intro protocol part surface larger other renamed edited
  obtain ⟨monotone, more, unnoticed⟩ := mismatches_monotone
  have covers : ∀ method ∈ surface.methods, ∃ found ∈ larger.methods, found.name = method.name ∧
      found.params.length = method.params.length ∧ found.returns = method.returns := by decide
  have fewer : part.methods ⊆ protocol.methods := by decide
  have conforms : mismatches protocol surface = [] := by decide
  have twice : surface.methods ⊆ surface.methods ++ surface.methods := by simp
  have requirements : other.methods.map Signature.outline =
      renamed.methods.map Signature.outline := by decide
  have alike : other.Alike surface.methods edited.methods := Protocol.alike_iff.mpr (by decide)
  have report : mismatches other surface = [.arity "get" 2 0, .returned "size" .float .bool] := by
    decide
  exact ⟨covers, fewer, conforms, monotone protocol part surface larger covers fewer conforms,
    twice, more protocol surface _ twice conforms, requirements, alike, report,
    (unnoticed other renamed surface edited requirements alike).symm.trans report⟩

/-- The order of the overloads of one name is noticed: the first one is reported. -/
example :
    let protocol : Protocol := { name := "Table", methods := [⟨"get", ["key"], .int⟩] }
    mismatches protocol
        { name := "Cache", methods := [⟨"get", [], .int⟩, ⟨"get", ["a", "b"], .int⟩] } ≠
      mismatches protocol
        { name := "Cache", methods := [⟨"get", ["a", "b"], .int⟩, ⟨"get", [], .int⟩] } := by
  decide

end Covenant
