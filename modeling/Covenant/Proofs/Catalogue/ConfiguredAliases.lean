import Covenant.Proofs.Catalogue.Bystanders

/-!
# Configured aliases

A configured alias that is no canonical name when the catalogue is made is reserved for its target
from then on (`Catalogue.Reserves`): no protocol may take it as its canonical name, and none but the
target may list it. It leads to whatever is stored under the target, and to nothing as long as
nothing is (`Catalogue.resolve_configured`). What can end this is a replacement, since the aliases
that a replaced protocol lists are taken out of the table with it. A catalogue that is strict
replaces nothing.
-/
namespace Covenant.Catalogue

variable {catalogue last : Catalogue} {protocol : Protocol} {outcome : Outcome}
  {alternate target : String} {protocols : List Protocol} {history : List Event}

/-- The table keeps a name for a target, and the name is no canonical one. -/
structure Reserves (catalogue : Catalogue) (alternate target : String) : Prop where
  /-- The name does not stand for itself. -/
  apart : alternate ≠ target
  /-- The table leads the name to its target. -/
  leads : catalogue.aliases.find? alternate = some target
  /-- Nothing is stored under the name. -/
  unstored : catalogue.protocols.find? alternate = none

/-- Among protocols that are registered in order, none replaces a protocol that lists a name unless
it lists the name as well. -/
def Retains (alternate : String) (catalogue : Catalogue) : List Protocol → Prop
  | [] => True
  | protocol :: rest =>
    (∀ replaced ∈ catalogue.protocols.find? protocol.name,
      replaced.sameContract protocol = false → alternate ∈ replaced.aliases →
        alternate ∈ protocol.aliases) ∧
      (catalogue.register protocol).catalogue.Retains alternate rest

/-- Nothing that a history accepts replaces a protocol that lists a name by one that does not. -/
def RetainsIn (alternate : String) (catalogue : Catalogue) : List Event → Prop
  | [] => True
  | event :: rest =>
    catalogue.Retains alternate (catalogue.accepted event.system event.operation) ∧
      (catalogue.perform event.system event.operation).catalogue.RetainsIn alternate rest

instance decidableRetains (alternate : String) (catalogue : Catalogue)
    (protocols : List Protocol) : Decidable (catalogue.Retains alternate protocols) :=
  match protocols with
  | [] => isTrue trivial
  | protocol :: rest =>
    @instDecidableAnd _ _ inferInstance
      (decidableRetains alternate (catalogue.register protocol).catalogue rest)

instance decidableRetainsIn (alternate : String) (catalogue : Catalogue) (history : List Event) :
    Decidable (catalogue.RetainsIn alternate history) :=
  match history with
  | [] => isTrue trivial
  | event :: rest =>
    @instDecidableAnd _ _ inferInstance
      (decidableRetainsIn alternate
        (catalogue.perform event.system event.operation).catalogue rest)

namespace Reserves

/-- A reserved name stands for what is stored under its target. -/
theorem resolve (reserves : catalogue.Reserves alternate target) :
    catalogue.resolve alternate = catalogue.protocols.find? target := by
  rw [resolve_of_absent reserves.unstored, reserves.leads, Option.bind_some]

/-- Only the target may list a reserved name. -/
theorem eq_target (reserves : catalogue.Reserves alternate target)
    (free : catalogue.Free protocol) (member : alternate ∈ protocol.aliases) :
    protocol.name = target :=
  (free.unshared alternate member target reserves.leads).symm

/-- An accepted registration keeps a reserved name, unless it releases the name and does not take
it up again. -/
theorem apply (reserves : catalogue.Reserves alternate target)
    (accepts : catalogue.Accepts protocol outcome)
    (kept : alternate ∈ catalogue.released protocol outcome → alternate ∈ protocol.aliases) :
    (catalogue.apply protocol outcome).Reserves alternate target where
  apart := reserves.apart
  leads := by
    rw [find?_aliases_apply accepts]
    by_cases member : alternate ∈ protocol.aliases
    · rw [if_pos member, reserves.eq_target accepts.free member]
    · rw [if_neg member, if_neg fun gone => member (kept gone), reserves.leads]
  unstored := by
    have other : alternate ≠ protocol.name := by
      rintro rfl
      exact reserves.apart (accepts.free.unaliased target reserves.leads).symm
    rw [find?_protocols_apply accepts, if_neg other, reserves.unstored]

/-- Registering protocols keeps a reserved name as long as no replacement gives it up. -/
theorem registers (reserves : catalogue.Reserves alternate target)
    (registers : Registers catalogue protocols last)
    (retains : catalogue.Retains alternate protocols) : last.Reserves alternate target := by
  induction registers with
  | nil catalogue => exact reserves
  | @cons catalogue last protocol outcome rest accepts _ ih =>
    obtain ⟨first, others⟩ := retains
    rw [register_of_accepts accepts] at others
    refine ih (reserves.apply accepts fun gone => ?_) others
    -- What is released belongs to a protocol of another contract, which is replaced.
    obtain ⟨rfl, replaced, stored, member⟩ := mem_released_iff.mp gone
    cases accepts.settles with
    | replaced existing found other allowed =>
      rw [stored] at found
      cases found
      exact first replaced stored other member

/-- A history without added aliases keeps a reserved name as long as no replacement gives it up. -/
theorem through (reserves : catalogue.Reserves alternate target)
    (aliasFree : ∀ event ∈ history, event.operation.givesAlias = false)
    (retains : catalogue.RetainsIn alternate history) :
    (catalogue.through history).Reserves alternate target := by
  induction history generalizing catalogue with
  | nil => exact reserves
  | cons event rest ih =>
    obtain ⟨first_free, others_free⟩ := List.forall_mem_cons.mp aliasFree
    obtain ⟨first, others⟩ := retains
    refine ih ?_ others_free others
    change (catalogue.perform event.system event.operation).catalogue.Reserves alternate target
    rcases perform_cases event.system catalogue event.operation with
      registers | ⟨name, leads_to, adds⟩ | ⟨path, adds⟩
    · exact reserves.registers registers first
    · rw [adds] at first_free
      cases first_free
    · rw [adds]
      exact ⟨reserves.apart, reserves.leads, reserves.unstored⟩

end Reserves

/-- Protocols that a strict catalogue accepts replace nothing. -/
theorem retains_of_strict (registers : Registers catalogue protocols last)
    (strict : catalogue.allowRedeclaration = false) : catalogue.Retains alternate protocols := by
  induction registers with
  | nil catalogue => trivial
  | @cons catalogue last protocol outcome rest accepts _ ih =>
    constructor
    · intro replaced stored other member
      cases accepts.settles with
      | added fresh =>
        rw [fresh] at stored
        cases stored
      | unchanged existing found same =>
        rw [found] at stored
        cases stored
        rw [same] at other
        cases other
      | replaced existing found other allowed =>
        rw [strict] at allowed
        cases allowed
    · rw [register_of_accepts accepts]
      exact ih (allowRedeclaration_apply.trans strict)

/-- A history of a strict catalogue replaces nothing. -/
theorem retainsIn_of_strict (strict : catalogue.allowRedeclaration = false)
    (history : List Event) : catalogue.RetainsIn alternate history := by
  induction history generalizing catalogue with
  | nil => trivial
  | cons event rest ih =>
    refine ⟨?_, ih ((allowRedeclaration_through catalogue [event]).trans strict)⟩
    rcases perform_cases event.system catalogue event.operation with
      registers | ⟨name, leads_to, adds⟩ | ⟨path, adds⟩
    · exact retains_of_strict registers strict
    · rw [adds]
      trivial
    · rw [adds]
      trivial

/-- A configured alias that is no canonical name of the catalogue as it is made is reserved for its
target. -/
theorem reserves_configured {settings : Settings} {order : List (String × String)}
    {start : Catalogue} (order_perm : order.Perm settings.aliases.entries)
    (built : ofSettingsInOrder settings order = .ok start)
    (entry : settings.aliases.find? alternate = some target)
    (uncanonical : alternate ∉ start.names) : start.Reserves alternate target := by
  obtain ⟨acceptable, made⟩ := addAliases_eq_ok_iff.mp built
  have member : (alternate, target) ∈ order :=
    order_perm.mem_iff.mpr (NameMap.find?_eq_some_iff.mp entry)
  have distinct : (order.map (·.1)).Nodup :=
    (order_perm.map _).nodup_iff.mpr settings.aliases.nodup_names
  refine ⟨?_, ?_, ?_⟩
  · have accepted := acceptable _ member
    simp only [acceptsAlias, Bool.and_eq_true, bne_iff_ne] at accepted
    exact accepted.2
  · rw [made, NameMap.find?_insertAll _ distinct,
      (NameMap.lookup_eq_some_iff distinct).mpr member, Option.some_or]
  · have keyed := (Built.configured settings order order_perm built).keyed
    refine Option.eq_none_iff_forall_ne_some.mpr fun stored found => uncanonical ?_
    exact keyed.mem_names.mpr ⟨stored, found⟩

/-- A configured alias that is no canonical name when the catalogue is made keeps its meaning. After
any history without added aliases it stands for what is then stored under its target, and for
nothing if nothing is, unless something that the history accepts replaced a protocol that lists the
alias by one that does not. In a strict catalogue there is no such replacement. -/
theorem resolve_configured {settings : Settings} {order : List (String × String)}
    {start : Catalogue} (order_perm : order.Perm settings.aliases.entries)
    (built : ofSettingsInOrder settings order = .ok start)
    (entry : settings.aliases.find? alternate = some target)
    (uncanonical : alternate ∉ start.names)
    (aliasFree : ∀ event ∈ history, event.operation.givesAlias = false) :
    (start.RetainsIn alternate history →
      (start.through history).resolve alternate =
        (start.through history).protocols.find? target) ∧
    (settings.allowRedeclaration = false → start.RetainsIn alternate history) := by
  constructor
  · intro retains
    have reserves := reserves_configured order_perm built entry uncanonical
    exact (reserves.through aliasFree retains).resolve
  · intro strict
    apply retainsIn_of_strict
    rw [(addAliases_eq_ok_iff.mp built).2]
    exact strict

/-- Settings with an alias for a protocol that is declared later. -/
def reservingSettings : Settings where
  aliases := .ofList [("Shut", "Closable")]
  allowRedeclaration := true
  includeStandard := false

/-- The alias is asked for by another protocol, taken up by its own, and kept by a replacement of
it. -/
def retainingHistory : List Event :=
  let files : FileSystem := { root := .directory true [] }
  [⟨files, .register { name := "Sealable", aliases := ["Shut"], methods := [⟨"seal", [], .any⟩] }⟩,
    ⟨files, .registerText "protocol: {name: Closable, aliases: [Shut], methods: [{name: close}]}"⟩,
    ⟨files, .register { name := "Closable", aliases := ["Close", "Shut"]
                        methods := [⟨"close", [], .bool⟩] }⟩]

/-- At the end of that history the alias stands for the replacement, and after its first step for
nothing. -/
theorem resolve_configured_retained :
    let start : Catalogue := { ofSettingsBase reservingSettings with
      aliases := empty.aliases.insertAll reservingSettings.aliases.entries }
    let closable : Protocol := { name := "Closable", aliases := ["Close", "Shut"]
                                 methods := [⟨"close", [], .bool⟩] }
    ofSettingsInOrder reservingSettings reservingSettings.aliases.entries = .ok start ∧
      reservingSettings.aliases.find? "Shut" = some "Closable" ∧ "Shut" ∉ start.names ∧
      start.RetainsIn "Shut" retainingHistory ∧
      (start.through (retainingHistory.take 1)).resolve "Shut" = none ∧
      (start.through retainingHistory).resolve "Shut" = some closable := by
  intro start closable
  have built : ofSettingsInOrder reservingSettings reservingSettings.aliases.entries = .ok start :=
    addAliases_eq_ok_iff.mpr ⟨by decide +kernel, rfl⟩
  have entry : reservingSettings.aliases.find? "Shut" = some "Closable" := by decide +kernel
  have uncanonical : "Shut" ∉ start.names := by decide +kernel
  have retains : start.RetainsIn "Shut" retainingHistory := by decide +kernel
  have aliasFree : ∀ event ∈ retainingHistory, event.operation.givesAlias = false := by decide
  have begins : start.RetainsIn "Shut" (retainingHistory.take 1) := by decide +kernel
  have nothing := (resolve_configured (.refl _) built entry uncanonical
    fun event member => aliasFree event (List.mem_of_mem_take member)).1 begins
  have kept := (resolve_configured (.refl _) built entry uncanonical aliasFree).1 retains
  exact ⟨built, entry, uncanonical, retains, nothing.trans (by decide +kernel),
    kept.trans (by decide +kernel)⟩

/-- A replacement gives up an alias that is configured: the alias stands for nothing although its
target is stored. -/
theorem configured_alias_given_up :
    let start : Catalogue := { ofSettingsBase reservingSettings with
      aliases := empty.aliases.insertAll reservingSettings.aliases.entries }
    let files : FileSystem := { root := .directory true [] }
    let closable : Protocol := { name := "Closable", methods := [⟨"close", [], .bool⟩] }
    let history : List Event := [
      ⟨files, .register { closable with aliases := ["Shut"], methods := [⟨"close", [], .any⟩] }⟩,
      ⟨files, .register closable⟩]
    ofSettingsInOrder reservingSettings reservingSettings.aliases.entries = .ok start ∧
      reservingSettings.aliases.find? "Shut" = some "Closable" ∧ "Shut" ∉ start.names ∧
      (∀ event ∈ history, event.operation.givesAlias = false) ∧
      (start.through history).protocols.find? "Closable" = some closable ∧
      (start.through history).resolve "Shut" = none := by
  intro start files closable history
  exact ⟨addAliases_eq_ok_iff.mpr ⟨by decide +kernel, rfl⟩, by decide +kernel, by decide +kernel,
    by decide, by decide +kernel, by decide +kernel⟩

end Covenant.Catalogue
