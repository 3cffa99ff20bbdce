import Covenant.Catalogue.Operation
import Covenant.Proofs.Catalogue.Registration

/-!
# Operations as registrations

Whatever an operation reads, it changes a catalogue by accepted registrations and by nothing else,
apart from the two operations that add an alias or a search path. `Catalogue.accepted` lists the
protocols that an operation has accepted for good, those of a list that is refused as a whole left
out, and `Catalogue.perform_cases` says that registering them in order is what the operation does.
-/
namespace Covenant

/-- The protocols that are declared, in order. -/
def Declarations.protocols : Declarations → List Protocol
  | single protocol => [protocol]
  | list protocols => protocols

namespace Catalogue

/-- Protocols are registered in order, none of them refused. -/
inductive Registers : Catalogue → List Protocol → Catalogue → Prop
  /-- Nothing is registered. -/
  | nil (catalogue : Catalogue) : Registers catalogue [] catalogue
  /-- One protocol is accepted, and the others after it. -/
  | cons {catalogue last : Catalogue} {protocol : Protocol} {outcome : Outcome}
    {rest : List Protocol} (accepts : catalogue.Accepts protocol outcome)
    (others : Registers (catalogue.apply protocol outcome) rest last) :
    Registers catalogue (protocol :: rest) last

namespace Registers

variable {catalogue middle last : Catalogue} {protocols more : List Protocol}

/-- One accepted protocol. -/
theorem single {protocol : Protocol} {outcome : Outcome}
    (accepts : catalogue.Accepts protocol outcome) :
    Registers catalogue [protocol] (catalogue.apply protocol outcome) :=
  .cons accepts (.nil _)

/-- Registering more protocols goes on from where the first ones led. -/
theorem append (first : Registers catalogue protocols middle)
    (second : Registers middle more last) :
    Registers catalogue (protocols ++ more) last := by
  induction first with
  | nil _ => exact second
  | cons accepts _ ih => exact .cons accepts (ih second)

/-- What every accepted registration keeps, registering any protocols keeps. -/
theorem preserves {motive : Catalogue → Prop}
    (step : ∀ {catalogue protocol outcome}, motive catalogue →
      catalogue.Accepts protocol outcome → motive (catalogue.apply protocol outcome))
    (registers : Registers catalogue protocols last) (start : motive catalogue) : motive last := by
  induction registers with
  | nil _ => exact start
  | cons accepts _ ih => exact ih (step start accepts)

/-- Registering protocols one after another succeeds where none is refused. -/
theorem registerEach (registers : Registers catalogue protocols last) :
    (catalogue.registerEach protocols).result = .ok () ∧
      (catalogue.registerEach protocols).catalogue = last := by
  induction registers with
  | nil _ => exact ⟨rfl, rfl⟩
  | cons accepts _ ih =>
    unfold Catalogue.registerEach
    rw [register_of_accepts accepts]
    exact ih

end Registers

/-- Where registering protocols one after another succeeds, none is refused. -/
theorem registers_registerEach {catalogue : Catalogue} {protocols : List Protocol}
    (succeeds : (catalogue.registerEach protocols).result = .ok ()) :
    Registers catalogue protocols (catalogue.registerEach protocols).catalogue := by
  induction protocols generalizing catalogue with
  | nil => exact .nil catalogue
  | cons protocol rest ih =>
    unfold registerEach at succeeds ⊢
    cases decided : catalogue.outcome protocol with
    | error error =>
      rw [register_of_error decided] at succeeds
      cases succeeds
    | ok outcome =>
      have accepts := outcome_eq_ok_iff.mp decided
      rw [register_of_accepts accepts] at succeeds ⊢
      exact .cons accepts (ih succeeds)

/-- An answer that is not refused is what it answers. -/
theorem eq_ok_of_toOption {ε α : Type} {answer : Except ε α} {value : α}
    (answers : answer.toOption = some value) : answer = .ok value := by
  cases answer with
  | error _ => cases answers
  | ok _ => exact congrArg _ (Option.some.inj answers)

/-- The error of an answer, if it is refused. -/
def refusal? {ε α : Type} : Except ε α → Option ε
  | .error error => some error
  | .ok _ => none

/-- An answer that is refused is its error. -/
theorem eq_error_of_refusal? {ε α : Type} {answer : Except ε α} {error : ε}
    (refused : refusal? answer = some error) : answer = .error error := by
  cases answer with
  | error _ => exact congrArg _ (Option.some.inj refused)
  | ok _ => cases refused

/-- A text declares the protocols of the list that it is read as. -/
theorem declares_list {text : String} {protocols : List Protocol}
    (reads : (match Declarations.ofYaml text with
      | .ok (.list found) => decide (found = protocols)
      | _ => false) = true) :
    Declarations.ofYaml text = .ok (.list protocols) := by
  split at reads
  · rename_i found read
    rw [read, of_decide_eq_true reads]
  · cases reads

/-- Registering protocols one after another succeeds if it is not refused. -/
theorem registerEach_eq_ok {catalogue : Catalogue} {protocols : List Protocol}
    (succeeds : (catalogue.registerEach protocols).result.toBool = true) :
    (catalogue.registerEach protocols).result = .ok () := by
  cases answer : (catalogue.registerEach protocols).result with
  | error error =>
    rw [answer] at succeeds
    cases succeeds
  | ok _ => rfl

/-- Protocols are all accepted exactly when registering them one after another succeeds. -/
theorem exists_registers_iff {catalogue : Catalogue} {protocols : List Protocol} :
    (∃ last, Registers catalogue protocols last) ↔
      (catalogue.registerEach protocols).result = .ok () :=
  ⟨fun ⟨_, registers⟩ => registers.registerEach.1, fun succeeds =>
    ⟨_, registers_registerEach succeeds⟩⟩

/-! ## What an operation accepts -/

/-- The protocol, if registering it is accepted. -/
def acceptedProtocol (catalogue : Catalogue) (protocol : Protocol) : List Protocol :=
  match (catalogue.register protocol).result with
  | .ok _ => [protocol]
  | .error _ => []

/-- The protocols that a text declares, if registering them is accepted. -/
def acceptedText (catalogue : Catalogue) (text : String) : List Protocol :=
  match Declarations.ofYaml text, (catalogue.registerText text).result with
  | .ok declarations, .ok _ => declarations.protocols
  | _, _ => []

/-- The protocols that a file declares, if registering them is accepted. -/
def acceptedFile (system : FileSystem) (catalogue : Catalogue) (path : String) : List Protocol :=
  match system.readText path with
  | .ok text => catalogue.acceptedText text
  | .error _ => []

/-- The protocols that visits of files register. -/
def acceptedVisits (system : FileSystem) (catalogue : Catalogue) : List Visit → List Protocol
  | [] => []
  | .fail _ :: _ => []
  | .passOver _ :: rest => catalogue.acceptedVisits system rest
  | .register path :: rest =>
    catalogue.acceptedFile system path ++
      (catalogue.tryFile system path).catalogue.acceptedVisits system rest

/-- The protocols that loading directories up to the first that fails registers. -/
def acceptedEach (system : FileSystem) (catalogue : Catalogue) : List String → List Protocol
  | [] => []
  | path :: rest =>
    let first := catalogue.loadDirectory system path
    catalogue.acceptedVisits system (system.plan path) ++
      match first.result with
      | .ok _ => first.catalogue.acceptedEach system rest
      | .error _ => []

/-- The protocols of the first file that exists and is not refused. -/
def acceptedFirst (system : FileSystem) (catalogue : Catalogue) : List String → List Protocol
  | [] => []
  | path :: rest =>
    if system.pathExists path then
      let first := catalogue.tryFile system path
      catalogue.acceptedFile system path ++
        if first.result.isSome then [] else first.catalogue.acceptedFirst system rest
    else catalogue.acceptedFirst system rest

/-- The protocols that an operation accepts, in the order of their registrations. -/
def accepted (system : FileSystem) (catalogue : Catalogue) : Operation → List Protocol
  | .register protocol => catalogue.acceptedProtocol protocol
  | .registerText text => catalogue.acceptedText text
  | .registerFile path => catalogue.acceptedFile system path
  | .loadDirectory path => catalogue.acceptedVisits system (system.plan path)
  | .loadAll => catalogue.acceptedEach system catalogue.searchPaths
  | .resolveOrLoad name =>
    if (catalogue.resolve name).isSome then []
    else catalogue.acceptedFirst system (catalogue.candidates name)
  | .addAlias _ _ => []
  | .addSearchPath _ => []

/-! ## Operations register what they accept -/

variable {system : FileSystem} {catalogue : Catalogue}

/-- Registering a protocol registers it if it is accepted, and else nothing. -/
theorem registers_register (protocol : Protocol) :
    Registers catalogue (catalogue.acceptedProtocol protocol)
      (catalogue.register protocol).catalogue := by
  unfold acceptedProtocol
  cases decided : catalogue.outcome protocol with
  | error error =>
    rw [register_of_error decided]
    exact .nil catalogue
  | ok outcome =>
    have accepts := outcome_eq_ok_iff.mp decided
    rw [register_of_accepts accepts]
    exact .single accepts

/-- A list none of which is refused is registered. -/
theorem registerList_of_registers {protocols : List Protocol} {last : Catalogue}
    (registers : Registers catalogue protocols last) :
    (catalogue.registerList protocols).result = .ok protocols.length ∧
      (catalogue.registerList protocols).catalogue = last := by
  obtain ⟨succeeds, ended⟩ := registers.registerEach
  simp only [registerList, succeeds, ended, and_self]

/-- A list one of which is refused is refused for the same reason, and nothing changes. -/
theorem registerList_of_error {protocols : List Protocol} {error : CatalogueError}
    (refused : (catalogue.registerEach protocols).result = .error error) :
    (catalogue.registerList protocols).result = .error error ∧
      (catalogue.registerList protocols).catalogue = catalogue := by
  simp only [registerList, refused, and_self]

/-- What a text declares is registered as a whole or not at all. -/
theorem registerDeclarations_cases (catalogue : Catalogue) (declarations : Declarations) :
    (∃ count, (catalogue.registerDeclarations declarations).result = .ok count ∧
      Registers catalogue declarations.protocols
        (catalogue.registerDeclarations declarations).catalogue) ∨
    (∃ error, (catalogue.registerDeclarations declarations).result = .error error ∧
      (catalogue.registerDeclarations declarations).catalogue = catalogue) := by
  cases declarations with
  | single protocol =>
    simp only [registerDeclarations]
    cases decided : catalogue.outcome protocol with
    | error error =>
      rw [register_of_error decided]
      exact .inr ⟨error, rfl, rfl⟩
    | ok outcome =>
      have accepts := outcome_eq_ok_iff.mp decided
      rw [register_of_accepts accepts]
      exact .inl ⟨1, rfl, .single accepts⟩
  | list protocols =>
    simp only [registerDeclarations]
    cases staged : (catalogue.registerEach protocols).result with
    | error error => exact .inr ⟨error, registerList_of_error staged⟩
    | ok _ =>
      obtain ⟨answer, ended⟩ := registerList_of_registers (registers_registerEach staged)
      rw [ended]
      exact .inl ⟨protocols.length, answer, registers_registerEach staged⟩

/-- Registering a text registers what is accepted of it. -/
theorem registers_registerText (text : String) :
    Registers catalogue (catalogue.acceptedText text) (catalogue.registerText text).catalogue := by
  unfold acceptedText registerText
  cases Declarations.ofYaml text with
  | error error => exact .nil catalogue
  | ok declarations =>
    rcases registerDeclarations_cases catalogue declarations with
      ⟨count, answer, registers⟩ | ⟨error, answer, ended⟩
    · simp only [answer]
      exact registers
    · simp only [answer, ended]
      exact .nil catalogue

/-- Registering a file registers what is accepted of it. -/
theorem registers_registerFile (system : FileSystem) (catalogue : Catalogue) (path : String) :
    Registers catalogue (catalogue.acceptedFile system path)
      (catalogue.registerFile system path).catalogue := by
  unfold acceptedFile registerFile
  cases system.readText path with
  | error fault => exact .nil catalogue
  | ok text => exact registers_registerText text

/-- Trying a file answers with the count of the registration, if it is not refused. -/
theorem result_tryFile (catalogue : Catalogue) (path : String) :
    (catalogue.tryFile system path).result =
      (catalogue.registerFile system path).result.toOption := by
  unfold tryFile
  cases answer : (catalogue.registerFile system path).result <;> simp only [answer] <;> rfl

/-- Trying a file leaves what the registration leaves. -/
theorem catalogue_tryFile (catalogue : Catalogue) (path : String) :
    (catalogue.tryFile system path).catalogue =
      (catalogue.registerFile system path).catalogue := by
  unfold tryFile
  cases answer : (catalogue.registerFile system path).result <;> simp only [answer]

/-- Trying a file registers what is accepted of it. -/
theorem registers_tryFile (path : String) :
    Registers catalogue (catalogue.acceptedFile system path)
      (catalogue.tryFile system path).catalogue := by
  have registers := registers_registerFile system catalogue path
  unfold tryFile
  dsimp only
  split
  · exact registers
  · exact registers

/-- Visiting files registers what is accepted of each. -/
theorem registers_visit (visits : List Visit) :
    Registers catalogue (catalogue.acceptedVisits system visits)
      (catalogue.visit system visits).catalogue := by
  induction visits generalizing catalogue with
  | nil => exact .nil catalogue
  | cons visit rest ih =>
    cases visit with
    | register path => exact (registers_tryFile path).append ih
    | passOver path => exact ih
    | fail fault => exact .nil catalogue

/-- Loading directories registers what is accepted in each. -/
theorem registers_loadEach (paths : List String) :
    Registers catalogue (catalogue.acceptedEach system paths)
      (catalogue.loadEach system paths).catalogue := by
  induction paths generalizing catalogue with
  | nil => exact .nil catalogue
  | cons path rest ih =>
    have first : Registers catalogue (catalogue.acceptedVisits system (system.plan path))
        (catalogue.loadDirectory system path).catalogue := registers_visit _
    unfold acceptedEach loadEach
    cases answer : (catalogue.loadDirectory system path).result with
    | error error =>
      simp only [answer, List.append_nil]
      exact first
    | ok count =>
      simp only [answer]
      exact first.append ih

/-- Trying files in order registers what is accepted of each. -/
theorem registers_tryFirst (paths : List String) :
    Registers catalogue (catalogue.acceptedFirst system paths)
      (catalogue.tryFirst system paths).catalogue := by
  induction paths generalizing catalogue with
  | nil => exact .nil catalogue
  | cons path rest ih =>
    unfold acceptedFirst tryFirst
    split
    · dsimp only
      split
      · rw [List.append_nil]
        exact registers_tryFile path
      · exact (registers_tryFile path).append ih
    · exact ih

/-- Every operation registers the protocols that it accepts and changes nothing else, unless it
adds an alias or a search path. -/
theorem perform_cases (system : FileSystem) (catalogue : Catalogue) (operation : Operation) :
    Registers catalogue (catalogue.accepted system operation)
        (catalogue.perform system operation).catalogue ∨
      (∃ alternate target, operation = .addAlias alternate target) ∨
      ∃ path, operation = .addSearchPath path := by
  cases operation with
  | register protocol => exact .inl (registers_register protocol)
  | registerText text => exact .inl (registers_registerText text)
  | registerFile path => exact .inl (registers_registerFile system catalogue path)
  | loadDirectory path => exact .inl (registers_visit _)
  | loadAll => exact .inl (registers_loadEach _)
  | resolveOrLoad name =>
    left
    change Registers catalogue (if (catalogue.resolve name).isSome then [] else _)
      (catalogue.resolveOrLoad system name).catalogue
    unfold resolveOrLoad
    dsimp only
    split
    · exact .nil catalogue
    · exact registers_tryFirst _
  | addAlias alternate target => exact .inr (.inl ⟨alternate, target, rfl⟩)
  | addSearchPath path => exact .inr (.inr ⟨path, rfl⟩)

end Catalogue

end Covenant
