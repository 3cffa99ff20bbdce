import Mathlib.Data.List.Forall2
import Covenant.Proofs.Conformance.Meeting

/-!
# Removed annotations

A method whose annotation is removed may return anything. That never makes a check stricter,
whichever side it happens on: what is reported afterwards was reported before, word for word and in
the same order (`mismatches_gradual`). Only complaints about returns can disappear.
-/
namespace Covenant

/-- A signature is another one, with its annotation or without it. -/
inductive Signature.Loosens : Signature → Signature → Prop
  /-- The annotation stays. -/
  | kept (signature : Signature) : Loosens signature signature
  /-- The annotation is removed. -/
  | removed (signature : Signature) : Loosens { signature with returns := .any } signature

/-- A mismatch is about what a method returns, and not about its name or its arguments. -/
def Mismatch.isReturned : Mismatch → Bool
  | returned _ _ _ => true
  | _ => false

namespace Signature.Loosens

variable {loose signature : Signature}

/-- The name stays. -/
theorem name (looser : loose.Loosens signature) : loose.name = signature.name := by
  cases looser <;> rfl

/-- The number of arguments stays. -/
theorem arity (looser : loose.Loosens signature) : loose.arity = signature.arity := by
  cases looser <;> rfl

/-- The return stays, or it may be anything. -/
theorem returns (looser : loose.Loosens signature) :
    loose.returns = signature.returns ∨ loose.returns = .any := by
  cases looser with
  | kept => exact .inl rfl
  | removed => exact .inr rfl

end Signature.Loosens

namespace ReturnKind

variable {expected expected' found found' : ReturnKind}

/-- What is accepted is accepted without annotations. -/
theorem accepts_of_loosens (promise : expected' = expected ∨ expected' = any)
    (answer : found' = found ∨ found' = any) (accepted : expected.accepts found = true) :
    expected'.accepts found' = true := by
  rcases promise with rfl | loose
  · rcases answer with rfl | loose
    · exact accepted
    · exact accepts_iff.mpr (.inr (.inl loose))
  · exact accepts_iff.mpr (.inl loose)

/-- Where something is refused, no annotation was removed. -/
theorem eq_of_refused (promise : expected' = expected ∨ expected' = any)
    (answer : found' = found ∨ found' = any) (refused : expected'.accepts found' = false) :
    expected' = expected ∧ found' = found := by
  constructor
  · refine promise.resolve_right fun loose => ?_
    exact Bool.noConfusion (refused.symm.trans (accepts_iff.mpr (.inl loose)))
  · refine answer.resolve_right fun loose => ?_
    exact Bool.noConfusion (refused.symm.trans (accepts_iff.mpr (.inr (.inl loose))))

end ReturnKind

namespace Surface

variable {surface surface' : Surface} {required required' : Signature}

/-- The overloads of a name are the same up to annotations. -/
theorem overloads_of_loosens
    (looser : List.Forall₂ Signature.Loosens surface'.methods surface.methods) (name : String) :
    List.Forall₂ Signature.Loosens (surface'.overloads name) (surface.overloads name) :=
  List.rel_filter (fun _ _ loosens => by simp only [loosens.name]) looser

/-- The overloads of an arity are the same up to annotations. -/
theorem arities_of_loosens {methods methods' : List Signature}
    (looser : List.Forall₂ Signature.Loosens methods' methods) (count : Nat) :
    List.Forall₂ Signature.Loosens (methods'.filter (·.arity == count))
      (methods.filter (·.arity == count)) :=
  List.rel_filter (fun _ _ loosens => by simp only [loosens.arity]) looser

/-- Where an overload was accepted, one is accepted without annotations. -/
theorem any_accepts_of_loosens {methods methods' : List Signature}
    (looser : List.Forall₂ Signature.Loosens methods' methods)
    (loosens : required'.Loosens required)
    (accepted : methods.any (fun found => required.returns.accepts found.returns) = true) :
    methods'.any (fun found => required'.returns.accepts found.returns) = true := by
  induction looser with
  | nil => cases accepted
  | cons first _ ih =>
    rw [List.any_cons, Bool.or_eq_true_iff] at accepted ⊢
    exact accepted.imp (ReturnKind.accepts_of_loosens loosens.returns first.returns) ih

/-- Without annotations a required method is reported as before, or its return was the reason and it
is not reported at all. -/
theorem mismatch?_of_loosens
    (looser : List.Forall₂ Signature.Loosens surface'.methods surface.methods)
    (loosens : required'.Loosens required) :
    surface'.mismatch? required' = surface.mismatch? required ∨
      surface'.mismatch? required' = none ∧
        (surface.mismatch? required).any Mismatch.isReturned = true := by
  have named := overloads_of_loosens looser required.name
  unfold mismatch?
  rw [loosens.name, loosens.arity]
  generalize surface'.overloads required.name = overloads',
    surface.overloads required.name = overloads at named
  have matched := arities_of_loosens named required.arity
  cases named with
  | nil => exact .inl rfl
  | @cons first' first others' others first_loosens _ =>
    dsimp only
    generalize (first' :: others').filter (·.arity == required.arity) = same_arity',
      (first :: others).filter (·.arity == required.arity) = same_arity at matched
    cases matched with
    | nil => exact .inl (by rw [first_loosens.arity])
    | @cons closest' closest rest' rest closest_loosens rest_loosens =>
      have closest_first := List.Forall₂.cons closest_loosens rest_loosens
      dsimp only
      by_cases accepted' :
          (closest' :: rest').any (fun found => required'.returns.accepts found.returns) = true
      · rw [if_pos accepted']
        split
        · exact .inl rfl
        · exact .inr ⟨rfl, rfl⟩
      · have refused : ¬(closest :: rest).any
            (fun found => required.returns.accepts found.returns) = true :=
          fun accepted => accepted' (any_accepts_of_loosens closest_first loosens accepted)
        have closest_refused : required'.returns.accepts closest'.returns = false := by
          rw [List.any_cons, Bool.or_eq_true_iff, not_or] at accepted'
          exact Bool.eq_false_iff.mpr accepted'.1
        obtain ⟨promise, answer⟩ :=
          ReturnKind.eq_of_refused loosens.returns closest_loosens.returns closest_refused
        exact .inl (by rw [if_neg accepted', if_neg refused, promise, answer])

end Surface

/-- What is reported without annotations was reported before, in the same order, and everything that
is not about returns still is. -/
theorem mismatches_of_loosens {protocol protocol' : Protocol} {surface surface' : Surface}
    (requirements : List.Forall₂ Signature.Loosens protocol'.methods protocol.methods)
    (exposed : List.Forall₂ Signature.Loosens surface'.methods surface.methods) :
    (mismatches protocol' surface').Sublist (mismatches protocol surface) ∧
      (mismatches protocol' surface').filter (!·.isReturned) =
        (mismatches protocol surface).filter (!·.isReturned) := by
  unfold mismatches
  generalize protocol'.methods = methods', protocol.methods = methods at requirements
  induction requirements with
  | nil => exact ⟨.slnil, rfl⟩
  | @cons required' required _ _ loosens _ ih =>
    obtain ⟨fewer, others⟩ := ih
    rcases Surface.mismatch?_of_loosens exposed loosens with same | ⟨unreported, isReturned⟩
    · cases reported : surface.mismatch? required with
      | none =>
        rw [List.filterMap_cons_none reported, List.filterMap_cons_none (same.trans reported)]
        exact ⟨fewer, others⟩
      | some mismatch =>
        rw [List.filterMap_cons_some reported, List.filterMap_cons_some (same.trans reported),
          List.filter_cons, List.filter_cons, others]
        exact ⟨fewer.cons_cons mismatch, rfl⟩
    · obtain ⟨mismatch, reported, isReturned⟩ := (Option.any_eq_true _ _).mp isReturned
      rw [List.filterMap_cons_none unreported, List.filterMap_cons_some reported,
        List.filter_cons_of_neg (by simp [isReturned])]
      exact ⟨fewer.cons mismatch, others⟩

/-- Removing annotations, from what is required or from what is exposed, takes nothing but
complaints about returns away: what is reported afterwards was reported before, word for word and in
the same order, every missing method and every wrong number of arguments still is reported, and what
conformed conforms. -/
theorem mismatches_gradual {protocol protocol' : Protocol} {surface surface' : Surface}
    (requirements : List.Forall₂ Signature.Loosens protocol'.methods protocol.methods)
    (exposed : List.Forall₂ Signature.Loosens surface'.methods surface.methods) :
    (mismatches protocol' surface').Sublist (mismatches protocol surface) ∧
      (mismatches protocol' surface').filter (!·.isReturned) =
        (mismatches protocol surface).filter (!·.isReturned) ∧
      (mismatches protocol surface = [] → mismatches protocol' surface' = []) := by
  obtain ⟨fewer, others⟩ := mismatches_of_loosens requirements exposed
  refine ⟨fewer, others, fun conforms => ?_⟩
  rw [conforms] at fewer
  exact List.sublist_nil.mp fewer

/-- The first of two refused overloads loses its annotation, and so does one of another arity. The
complaint about the one method disappears, and those about the others stay as they were. -/
theorem mismatches_gradual_overloaded :
    let protocol : Protocol :=
      { name := "Table"
        methods := [⟨"get", ["key"], .int⟩, ⟨"put", ["key", "value"], .bool⟩, ⟨"size", [], .int⟩,
          ⟨"drop", ["key"], .bool⟩, ⟨"clear", [], .any⟩] }
    let surface : Surface :=
      { name := "Cache"
        methods := [⟨"get", [], .str⟩, ⟨"get", ["name"], .str⟩, ⟨"get", ["name"], .float⟩,
          ⟨"put", ["name"], .bool⟩, ⟨"size", [], .str⟩, ⟨"drop", ["name"], .str⟩] }
    let protocol' : Protocol :=
      { protocol with methods := [⟨"get", ["key"], .int⟩, ⟨"put", ["key", "value"], .bool⟩,
          ⟨"size", [], .int⟩, ⟨"drop", ["key"], .any⟩, ⟨"clear", [], .any⟩] }
    let surface' : Surface :=
      { surface with methods := [⟨"get", [], .any⟩, ⟨"get", ["name"], .any⟩,
          ⟨"get", ["name"], .float⟩, ⟨"put", ["name"], .any⟩, ⟨"size", [], .str⟩,
          ⟨"drop", ["name"], .str⟩] }
    List.Forall₂ Signature.Loosens protocol'.methods protocol.methods ∧
      List.Forall₂ Signature.Loosens surface'.methods surface.methods ∧
      mismatches protocol surface = [.returned "get" .int .str, .arity "put" 2 1,
        .returned "size" .int .str, .returned "drop" .bool .str, .missing "clear"] ∧
      mismatches protocol' surface' =
        [.arity "put" 2 1, .returned "size" .int .str, .missing "clear"] ∧
      (mismatches protocol' surface').Sublist (mismatches protocol surface) := by
  intro protocol surface protocol' surface'
  have requirements : List.Forall₂ Signature.Loosens protocol'.methods protocol.methods :=
    .cons (.kept _) <| .cons (.kept _) <| .cons (.kept _) <|
      .cons (.removed ⟨"drop", ["key"], .bool⟩) <| .cons (.kept _) .nil
  have exposed : List.Forall₂ Signature.Loosens surface'.methods surface.methods :=
    .cons (.removed ⟨"get", [], .str⟩) <| .cons (.removed ⟨"get", ["name"], .str⟩) <|
      .cons (.kept _) <| .cons (.removed ⟨"put", ["name"], .bool⟩) <| .cons (.kept _) <|
      .cons (.kept _) .nil
  exact ⟨requirements, exposed, by decide, by decide, (mismatches_gradual requirements exposed).1⟩

end Covenant
