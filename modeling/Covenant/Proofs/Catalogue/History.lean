import Covenant.Proofs.Catalogue.Operations

/-!
# Histories of catalogues

A catalogue begins empty, with the standard protocols, or from settings, whose aliases may be given
in any order (`Catalogue.Built`). From there a history of operations leads on, each of which may
meet other files than the one before (`Catalogue.through`). What accepted registrations, added
aliases and added search paths keep holds at the end of a history if it holds at its beginning
(`Catalogue.through_preserves`).
-/
namespace Covenant

/-- An operation and the file system that it meets. -/
structure Event where
  /-- The files while the operation is performed. -/
  system : FileSystem
  /-- What is done. -/
  operation : Operation

/-- Whether an operation gives a name to a protocol without registering it. -/
def Operation.givesAlias : Operation → Bool
  | addAlias _ _ => true
  | _ => false

namespace Catalogue

/-- The catalogue at the end of a history. -/
def through (catalogue : Catalogue) (history : List Event) : Catalogue :=
  history.foldl (fun current event => (current.perform event.system event.operation).catalogue)
    catalogue

/-- The protocols accepted in the course of a history, in order. -/
def acceptedIn (catalogue : Catalogue) : List Event → List Protocol
  | [] => []
  | event :: rest =>
    catalogue.accepted event.system event.operation ++
      (catalogue.perform event.system event.operation).catalogue.acceptedIn rest

variable {catalogue : Catalogue} {history : List Event}

/-- A history goes on from where its beginning led. -/
theorem through_append (earlier later : List Event) :
    catalogue.through (earlier ++ later) = (catalogue.through earlier).through later :=
  List.foldl_append

/-- What accepted registrations, an added search path and the added alias of an operation keep, the
operation keeps. -/
theorem perform_preserves {motive : Catalogue → Prop} {system : FileSystem} {operation : Operation}
    (registered : ∀ {catalogue protocol outcome}, motive catalogue →
      catalogue.Accepts protocol outcome → motive (catalogue.apply protocol outcome))
    (searched : ∀ path, motive catalogue → motive (catalogue.addSearchPath path))
    (named : ∀ alternate target, operation = .addAlias alternate target → motive catalogue →
      motive (catalogue.addAlias alternate target))
    (start : motive catalogue) : motive (catalogue.perform system operation).catalogue := by
  rcases perform_cases system catalogue operation with
    registers | ⟨alternate, target, rfl⟩ | ⟨path, rfl⟩
  · exact registers.preserves registered start
  · exact named alternate target rfl start
  · exact searched path start

/-- What accepted registrations, added search paths and the added aliases of a history keep, the
history keeps. -/
theorem through_preserves {motive : Catalogue → Prop}
    (registered : ∀ {catalogue protocol outcome}, motive catalogue →
      catalogue.Accepts protocol outcome → motive (catalogue.apply protocol outcome))
    (searched : ∀ {catalogue} path, motive catalogue → motive (catalogue.addSearchPath path))
    (named : ∀ event ∈ history, ∀ catalogue alternate target,
      event.operation = .addAlias alternate target → motive catalogue →
        motive (catalogue.addAlias alternate target))
    (start : motive catalogue) : motive (catalogue.through history) := by
  induction history generalizing catalogue with
  | nil => exact start
  | cons event rest ih =>
    apply ih fun later member => named later (List.mem_cons_of_mem event member)
    exact perform_preserves registered searched (named event List.mem_cons_self catalogue) start

/-- What accepted registrations and added search paths keep, a history without added aliases
keeps. -/
theorem through_preserves_of_aliasFree {motive : Catalogue → Prop}
    (registered : ∀ {catalogue protocol outcome}, motive catalogue →
      catalogue.Accepts protocol outcome → motive (catalogue.apply protocol outcome))
    (searched : ∀ {catalogue} path, motive catalogue → motive (catalogue.addSearchPath path))
    (aliasFree : ∀ event ∈ history, event.operation.givesAlias = false)
    (start : motive catalogue) : motive (catalogue.through history) := by
  apply through_preserves registered searched _ start
  intro event member catalogue alternate target adds
  have free := aliasFree event member
  rw [adds] at free
  cases free

/-- A history keeps the mode. -/
theorem allowRedeclaration_through (catalogue : Catalogue) (history : List Event) :
    (catalogue.through history).allowRedeclaration = catalogue.allowRedeclaration :=
  through_preserves
    (motive := fun reached => reached.allowRedeclaration = catalogue.allowRedeclaration)
    (fun same _ => allowRedeclaration_apply.trans same) (fun _ same => same)
    (fun _ _ _ _ _ _ same => same) rfl

/-! ## Beginnings -/

/-- A catalogue as it is made, with the aliases that are configured for it. -/
inductive Built : NameMap String → Catalogue → Prop
  /-- Without protocols. -/
  | empty : Built .empty .empty
  /-- With the standard protocols. -/
  | standard : Built .empty .standard
  /-- From settings, the aliases given in any order. -/
  | configured (settings : Settings) (order : List (String × String)) {catalogue : Catalogue}
    (order_perm : order.Perm settings.aliases.entries)
    (built : ofSettingsInOrder settings order = .ok catalogue) : Built settings.aliases catalogue

/-- The standard catalogue is what registering the standard protocols in order makes. -/
theorem registers_standard : Registers .empty Protocol.standard .standard := by
  have succeeds : (Catalogue.empty.registerEach Protocol.standard).result = .ok () :=
    registerEach_eq_ok (by decide +kernel)
  have ended : (Catalogue.empty.registerEach Protocol.standard).catalogue = .standard := by
    decide +kernel
  rw [← ended]
  exact registers_registerEach succeeds

/-- What holds of the empty catalogue and is kept by accepted registrations holds of the catalogues
that settings begin with. -/
theorem preserves_of_base {motive : Catalogue → Prop}
    (registered : ∀ {catalogue protocol outcome}, motive catalogue →
      catalogue.Accepts protocol outcome → motive (catalogue.apply protocol outcome))
    (nothing : motive .empty) (is_base : catalogue = .empty ∨ catalogue = .standard) :
    motive catalogue := by
  rcases is_base with rfl | rfl
  · exact nothing
  · exact registers_standard.preserves registered nothing

/-- Aliases are put into the table in order, if all of them may be configured. -/
theorem addAliases_eq_ok_iff {order : List (String × String)} {last : Catalogue} :
    catalogue.addAliases order = .ok last ↔
      (∀ entry ∈ order, acceptsAlias entry.1 entry.2 = true) ∧
        last = { catalogue with aliases := catalogue.aliases.insertAll order } := by
  induction order generalizing catalogue with
  | nil =>
    simp only [addAliases, Except.ok.injEq, List.not_mem_nil, false_implies, implies_true,
      true_and]
    exact eq_comm
  | cons entry rest ih =>
    unfold addAliases
    rw [List.forall_mem_cons, and_assoc]
    by_cases accepted : acceptsAlias entry.1 entry.2 = true
    · rw [if_pos accepted, ih]
      exact (and_iff_right accepted).symm
    · rw [if_neg accepted]
      simp [accepted]

/-- A catalogue as it is made has the protocols of the empty or the standard one, and in its table
the configured aliases over those of that one. -/
theorem Built.tables {given : NameMap String} (built : Built given catalogue) :
    ∃ (base : Catalogue) (order : List (String × String)),
      (base = .empty ∨ base = .standard) ∧ order.Perm given.entries ∧
        catalogue.protocols = base.protocols ∧
          catalogue.aliases = base.aliases.insertAll order := by
  cases built with
  | empty => exact ⟨.empty, [], .inl rfl, .nil, rfl, rfl⟩
  | standard => exact ⟨.standard, [], .inr rfl, .nil, rfl, rfl⟩
  | configured settings order order_perm built =>
    refine ⟨if settings.includeStandard then .standard else .empty, order, ?_, order_perm, ?_, ?_⟩
    · cases settings.includeStandard
      · exact .inl rfl
      · exact .inr rfl
    · rw [(addAliases_eq_ok_iff.mp built).2]
      rfl
    · rw [(addAliases_eq_ok_iff.mp built).2]
      rfl

/-- What holds of no protocols and is kept by accepted registrations holds of the protocols of a
catalogue as it is made. -/
theorem Built.of_stored {given : NameMap String} {motive : NameMap Protocol → Prop}
    (registered : ∀ {catalogue : Catalogue} {protocol outcome}, motive catalogue.protocols →
      catalogue.Accepts protocol outcome → motive (catalogue.apply protocol outcome).protocols)
    (nothing : motive .empty) (built : Built given catalogue) : motive catalogue.protocols := by
  obtain ⟨base, order, is_base, _, protocols, _⟩ := built.tables
  rw [protocols]
  exact preserves_of_base (motive := fun reached => motive reached.protocols) registered nothing
    is_base

/-- A catalogue as it is made stores protocols under their own names. -/
theorem Built.keyed {given : NameMap String} (built : Built given catalogue) :
    catalogue.Keyed :=
  built.of_stored (motive := fun protocols =>
    ∀ name stored, protocols.find? name = some stored → stored.name = name) Keyed.apply nofun

/-- A catalogue as it is made stores well-formed protocols. -/
theorem Built.sound {given : NameMap String} (built : Built given catalogue) :
    catalogue.Sound :=
  built.of_stored (motive := fun protocols =>
    ∀ name stored, protocols.find? name = some stored → stored.fault? = none) Sound.apply nofun

/-- Every history stores protocols under their own names. -/
theorem Keyed.through (keyed : catalogue.Keyed) (history : List Event) :
    (catalogue.through history).Keyed :=
  through_preserves Keyed.apply (fun _ keyed => keyed) (fun _ _ _ _ _ _ keyed => keyed) keyed

/-- Every history stores well-formed protocols. -/
theorem Sound.through (sound : catalogue.Sound) (history : List Event) :
    (catalogue.through history).Sound :=
  through_preserves Sound.apply (fun _ sound => sound) (fun _ _ _ _ _ _ sound => sound) sound

end Catalogue

end Covenant
