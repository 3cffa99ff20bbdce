import Covenant.Proofs.Catalogue.Atomicity
import Covenant.Proofs.Yaml.Flow.Documents

/-!
# Two forms of a declaration

A text may declare a protocol under a key of its own or as a list of one. Registering the two does
the same as soon as both declare something (`Catalogue.formsAgree_of_declared`), but what one form
refuses the other one may accept. A protocol in flow notation that is written clearly and is not
nested too deeply is declared in both forms or in neither (`Catalogue.forms_agree`).
-/
namespace Covenant

namespace Catalogue

open Yaml

variable {catalogue : Catalogue} {text : String} {protocol : Protocol} {node : Node}

/-- The text that declares a protocol under a key of its own. -/
def singleForm (text : String) : String := "protocol: " ++ text

/-- The text that declares a list of one protocol. -/
def listForm (text : String) : String := "protocols: [" ++ text ++ "]"

/-- Registering both forms of a declaration does the same: both are refused and leave the catalogue
as it was, or both register one protocol and leave the same catalogue. -/
def FormsAgree (catalogue : Catalogue) (text : String) : Prop :=
  let single := catalogue.registerText (singleForm text)
  let list := catalogue.registerText (listForm text)
  (∃ error, single.result = .error error) ∧ (∃ error, list.result = .error error) ∧
      single.catalogue = catalogue ∧ list.catalogue = catalogue ∨
    single.result = .ok 1 ∧ list.result = .ok 1 ∧ single.catalogue = list.catalogue

/-- A protocol by itself is registered as a list of one. -/
theorem registerDeclarations_single (catalogue : Catalogue) (protocol : Protocol) :
    catalogue.registerDeclarations (.single protocol) =
      catalogue.registerDeclarations (.list [protocol]) := by
  simp only [registerDeclarations, registerList, registerEach, register]
  cases catalogue.outcome protocol <;> simp [Except.map]

/-- A text that declares nothing is refused. -/
theorem registerText_of_error {error : Yaml.Error}
    (refused : Declarations.ofYaml text = .error error) :
    catalogue.registerText text = ⟨.error (.yaml error), catalogue, []⟩ := by
  rw [registerText, refused]

/-- A text that declares something registers it. -/
theorem registerText_of_ok {declarations : Declarations}
    (declared : Declarations.ofYaml text = .ok declarations) :
    catalogue.registerText text = catalogue.registerDeclarations declarations := by
  rw [registerText, declared]

/-- Forms that declare the same protocol agree. -/
theorem formsAgree_of_declared
    (single : Declarations.ofYaml (singleForm text) = .ok (.single protocol))
    (list : Declarations.ofYaml (listForm text) = .ok (.list [protocol])) :
    FormsAgree catalogue text := by
  unfold FormsAgree
  rw [registerText_of_ok single, registerText_of_ok list, ← registerDeclarations_single]
  dsimp only
  rw [registerDeclarations]
  cases answer : (catalogue.register protocol).result with
  | error error =>
    have unchanged := catalogue_register_of_error answer
    exact .inl ⟨⟨error, rfl⟩, ⟨error, rfl⟩, unchanged, unchanged⟩
  | ok _ => exact .inr ⟨rfl, rfl, rfl⟩

/-- Forms that are both refused agree. -/
theorem formsAgree_of_refused
    (single : ∀ declarations, Declarations.ofYaml (singleForm text) ≠ .ok declarations)
    (list : ∀ declarations, Declarations.ofYaml (listForm text) ≠ .ok declarations) :
    FormsAgree catalogue text := by
  have refused : ∀ {text}, (∀ declarations, Declarations.ofYaml text ≠ .ok declarations) →
      ∃ error, catalogue.registerText text = ⟨.error error, catalogue, []⟩ := by
    intro text never
    cases answer : Declarations.ofYaml text with
    | error error => exact ⟨_, registerText_of_error answer⟩
    | ok declarations => exact absurd answer (never declarations)
  obtain ⟨error, single⟩ := refused single
  obtain ⟨error', list⟩ := refused list
  unfold FormsAgree
  rw [single, list]
  exact .inl ⟨⟨error, rfl⟩, ⟨error', rfl⟩, rfl, rfl⟩

/-- An accepted text declares something. -/
theorem declared_of_accepted {count : Nat}
    (accepted : (catalogue.registerText text).result = .ok count) :
    ∃ declarations, Declarations.ofYaml text = .ok declarations := by
  cases answer : Declarations.ofYaml text with
  | error error =>
    rw [registerText_of_error answer] at accepted
    cases accepted
  | ok declarations => exact ⟨declarations, rfl⟩

/-- The two forms of a collection in flow notation do the same whenever both are accepted, and
always if the collection is nested no more than 126 deep and is written clearly: where a text is
wanted it has a scalar that means a text, where a list or a map is wanted nothing else that may be
left out, and no variant has a tag of two marks. -/
theorem forms_agree (catalogue : Catalogue) (written : Node.ofFlow text = .ok node)
    (collection : node.isCollection = true) :
    (∀ count count', (catalogue.registerText (singleForm text)).result = .ok count →
      (catalogue.registerText (listForm text)).result = .ok count' → FormsAgree catalogue text) ∧
    (node.depth ≤ 126 → node.isClearProtocol = true → FormsAgree catalogue text) := by
  have single := Document.ofText_declaring written collection
  have list := Document.ofText_listing written
  have contained := Node.selfContained_of_ofFlow written
  have declared : ∀ {declarations declarations'},
      Declarations.ofYaml (singleForm text) = .ok declarations →
        Declarations.ofYaml (listForm text) = .ok declarations' → FormsAgree catalogue text := by
    intro declarations declarations' declares declares'
    obtain ⟨protocol, rfl, rfl⟩ := Document.declares_same single list contained declares declares'
    exact formsAgree_of_declared declares declares'
  constructor
  · intro count count' accepted accepted'
    obtain ⟨_, declares⟩ := declared_of_accepted accepted
    obtain ⟨_, declares'⟩ := declared_of_accepted accepted'
    exact declared declares declares'
  · intro within isClear
    have both := Document.declares_both single list contained within isClear
    by_cases declares : ∃ declarations, Declarations.ofYaml (singleForm text) = .ok declarations
    · obtain ⟨_, declares'⟩ := both.mp declares
      obtain ⟨_, declares⟩ := declares
      exact declared declares declares'
    · refine formsAgree_of_refused (fun _ answer => declares ⟨_, answer⟩) fun _ answer => ?_
      exact declares (both.mpr ⟨_, answer⟩)

/-- A protocol that is written clearly is registered in both forms. -/
theorem forms_agree_clear :
    let text := "{name: Closable, aliases: [Shut], methods: [{name: close, returns: bool}]}"
    ∃ node, Node.ofFlow text = .ok node ∧ node.isCollection = true ∧ node.depth ≤ 126 ∧
      node.isClearProtocol = true ∧ FormsAgree empty text ∧
      (empty.registerText (singleForm text)).result = .ok 1 := by
  intro text
  have clearly : (Node.ofFlow text).toOption.any (fun node =>
      node.isCollection && decide (node.depth ≤ 126) && node.isClearProtocol) = true := by
    decide +kernel
  obtain ⟨node, answer, clearly⟩ := (Option.any_eq_true _ _).mp clearly
  have written := eq_ok_of_toOption answer
  simp only [Bool.and_eq_true, decide_eq_true_eq] at clearly
  obtain ⟨⟨collection, within⟩, isClear⟩ := clearly
  exact ⟨node, written, collection, within, isClear,
    (forms_agree empty written collection).2 within isClear, eq_ok_of_toOption (by decide +kernel)⟩

/-- A number as a name is taken as a text in one form and refused in the other. -/
theorem forms_disagree :
    let text := "{name: 5, methods: [{name: m}]}"
    (∃ node, Node.ofFlow text = .ok node) ∧
      (empty.registerText (singleForm text)).result = .ok 1 ∧
      (∃ error, (empty.registerText (listForm text)).result = .error error) ∧
      ¬FormsAgree empty text := by
  intro text
  have written : (Node.ofFlow text).toOption.isSome = true := by decide +kernel
  obtain ⟨node, answer⟩ := Option.isSome_iff_exists.mp written
  have single : (empty.registerText (singleForm text)).result = .ok 1 :=
    eq_ok_of_toOption (by decide +kernel)
  have list : (refusal? (empty.registerText (listForm text)).result).isSome = true := by
    decide +kernel
  obtain ⟨error, refused⟩ := Option.isSome_iff_exists.mp list
  have refused := eq_error_of_refusal? refused
  refine ⟨⟨node, eq_ok_of_toOption answer⟩, single, ⟨error, refused⟩, ?_⟩
  rintro (⟨⟨_, fails⟩, -⟩ | ⟨-, succeeds, -⟩)
  · cases single.symm.trans fails
  · cases refused.symm.trans succeeds

end Catalogue

end Covenant
