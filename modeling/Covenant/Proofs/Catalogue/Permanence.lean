import Covenant.Proofs.Catalogue.History

/-!
# Permanence in strict catalogues

A catalogue that refuses to redeclare only grows: what is stored stays with more aliases at most,
the table keeps its entries, and the two never come to claim one name for different protocols
(`Catalogue.Extends`). A protocol that was accepted once is therefore held from then on
(`Catalogue.Holds`), and registering it again changes nothing. The table may begin with any
configured aliases, those that lead nowhere and those that hide behind a canonical name included.
-/
namespace Covenant

/-- One protocol is another with more aliases at most, after those it had. -/
structure Protocol.Widens (later earlier : Protocol) : Prop where
  /-- They are one contract. -/
  contract : later.sameContract earlier = true
  /-- They are described alike. -/
  description : later.description = earlier.description
  /-- Aliases are only appended. -/
  aliases : earlier.aliases <+: later.aliases

namespace Protocol.Widens

/-- A protocol is itself with no more aliases. -/
theorem refl (protocol : Protocol) : protocol.Widens protocol :=
  ⟨protocol.sameContract_refl, rfl, List.prefix_rfl⟩

/-- Aliases appended twice are appended. -/
theorem trans {last middle first : Protocol} (second : last.Widens middle)
    (widens : middle.Widens first) : last.Widens first :=
  ⟨sameContract_trans second.contract widens.contract,
    second.description.trans widens.description, widens.aliases.trans second.aliases⟩

end Protocol.Widens

namespace Catalogue

/-- A catalogue still stands for what another one stood for, and no name changes hands. -/
structure Extends (later earlier : Catalogue) : Prop where
  /-- Stored protocols stay, with more aliases at most. -/
  stored : ∀ name found, earlier.protocols.find? name = some found →
    ∃ kept, later.protocols.find? name = some kept ∧ kept.Widens found
  /-- The table keeps its entries. -/
  table : ∀ alternate target, earlier.aliases.find? alternate = some target →
    later.aliases.find? alternate = some target
  /-- A name that leads to another protocol does not become a canonical one. -/
  unstored : ∀ alternate target, earlier.aliases.find? alternate = some target →
    alternate ≠ target → earlier.protocols.find? alternate = none →
      later.protocols.find? alternate = none
  /-- A canonical name does not come to lead to another protocol. -/
  unclaimed : ∀ name found target, earlier.protocols.find? name = some found →
    later.aliases.find? name = some target →
      target = name ∨ earlier.aliases.find? name = some target

/-- A protocol is stored under its name with all its aliases, and all its names lead there. -/
structure Holds (catalogue : Catalogue) (protocol : Protocol) : Prop where
  /-- The protocol is well formed. -/
  sound : protocol.fault? = none
  /-- Its names are free. -/
  free : catalogue.Free protocol
  /-- Its contract is stored with its aliases. -/
  stored : ∃ existing, catalogue.protocols.find? protocol.name = some existing ∧
    existing.sameContract protocol = true ∧ protocol.aliases ⊆ existing.aliases
  /-- Its aliases lead to it. -/
  leads : ∀ alternate ∈ protocol.aliases,
    catalogue.aliases.find? alternate = some protocol.name

variable {catalogue : Catalogue} {protocol : Protocol} {outcome : Outcome}

/-- Aliases that lead to a protocol are aliases of no other one. -/
theorem unshared_of_leads
    (leads : ∀ alternate ∈ protocol.aliases,
      catalogue.aliases.find? alternate = some protocol.name) :
    ∀ alternate ∈ protocol.aliases, ∀ owner,
      catalogue.aliases.find? alternate = some owner → owner = protocol.name := by
  intro alternate member owner aliased
  rw [leads alternate member] at aliased
  exact (Option.some.inj aliased).symm

namespace Extends

variable {first middle last : Catalogue}

/-- A catalogue stands for what it stands for. -/
theorem refl (catalogue : Catalogue) : catalogue.Extends catalogue where
  stored _ found looked := ⟨found, looked, .refl found⟩
  table _ _ leads := leads
  unstored _ _ _ _ absent := absent
  unclaimed _ _ _ _ leads := .inr leads

/-- What a catalogue stands for depends on nothing but its stored protocols and its table. -/
theorem of_tables {same : Catalogue} (extends_first : last.Extends first)
    (protocols : same.protocols = last.protocols) (aliases : same.aliases = last.aliases) :
    same.Extends first where
  stored := by simpa only [protocols] using extends_first.stored
  table := by simpa only [aliases] using extends_first.table
  unstored := by simpa only [protocols] using extends_first.unstored
  unclaimed := by simpa only [aliases] using extends_first.unclaimed

/-- What stays twice stays. -/
theorem trans (second : last.Extends middle) (extends_first : middle.Extends first) :
    last.Extends first where
  stored name found looked := by
    obtain ⟨kept, kept_looked, widens⟩ := extends_first.stored name found looked
    obtain ⟨later, later_looked, widens'⟩ := second.stored name kept kept_looked
    exact ⟨later, later_looked, widens'.trans widens⟩
  table alternate target leads :=
    second.table alternate target (extends_first.table alternate target leads)
  unstored alternate target leads different absent :=
    second.unstored alternate target (extends_first.table alternate target leads) different
      (extends_first.unstored alternate target leads different absent)
  unclaimed name found target looked leads := by
    obtain ⟨kept, kept_looked, _⟩ := extends_first.stored name found looked
    rcases second.unclaimed name kept target kept_looked leads with own | before
    · exact .inl own
    · exact extends_first.unclaimed name found target looked before

/-- A name that stood for a protocol stands for the same one, with more aliases at most. -/
theorem resolve (extends_first : last.Extends first) {name : String} {found : Protocol}
    (resolved : first.resolve name = some found) :
    ∃ kept, last.resolve name = some kept ∧ kept.Widens found := by
  cases canonical : first.protocols.find? name with
  | some stored =>
    rw [resolve_of_stored canonical] at resolved
    cases resolved
    obtain ⟨kept, looked, widens⟩ := extends_first.stored name found canonical
    exact ⟨kept, resolve_of_stored looked, widens⟩
  | none =>
    rw [resolve_of_absent canonical] at resolved
    obtain ⟨target, leads, looked⟩ := Option.bind_eq_some_iff.mp resolved
    have different : name ≠ target := by
      rintro rfl
      rw [canonical] at looked
      cases looked
    obtain ⟨kept, kept_looked, widens⟩ := extends_first.stored target found looked
    refine ⟨kept, ?_, widens⟩
    rw [resolve_of_absent (extends_first.unstored name target leads different canonical),
      extends_first.table name target leads]
    exact kept_looked

/-- A protocol that is held stays held. -/
theorem holds (extends_first : last.Extends first) (holds : first.Holds protocol) :
    last.Holds protocol := by
  obtain ⟨existing, looked, same, listed⟩ := holds.stored
  have leads : ∀ alternate ∈ protocol.aliases,
      last.aliases.find? alternate = some protocol.name := fun alternate member =>
    extends_first.table _ _ (holds.leads alternate member)
  refine ⟨holds.sound, ⟨?_, ?_, unshared_of_leads leads⟩, ?_, leads⟩
  · intro owner claimed
    rcases extends_first.unclaimed _ existing owner looked claimed with own | before
    · exact own
    · exact holds.free.unaliased owner before
  · intro alternate member different
    exact extends_first.unstored alternate _ (holds.leads alternate member) different
      (holds.free.unstored alternate member different)
  · obtain ⟨kept, kept_looked, widens⟩ := extends_first.stored _ existing looked
    exact ⟨kept, kept_looked, Protocol.sameContract_trans widens.contract same,
      fun _ member => widens.aliases.subset (listed member)⟩

end Extends

/-- A protocol that was just registered is held. -/
theorem holds_apply (accepts : catalogue.Accepts protocol outcome) :
    (catalogue.apply protocol outcome).Holds protocol := by
  have leads : ∀ alternate ∈ protocol.aliases,
      (catalogue.apply protocol outcome).aliases.find? alternate = some protocol.name := by
    intro alternate member
    rw [find?_aliases_apply accepts, if_pos member]
  refine ⟨accepts.sound, ⟨?_, ?_, unshared_of_leads leads⟩, ?_, leads⟩
  · intro owner claimed
    rw [find?_aliases_apply accepts] at claimed
    split at claimed
    · exact (Option.some.inj claimed).symm
    · split at claimed
      · cases claimed
      · exact accepts.free.unaliased owner claimed
  · intro alternate member different
    rw [find?_protocols_apply accepts, if_neg different]
    exact accepts.free.unstored alternate member different
  · refine ⟨catalogue.settled protocol outcome, ?_, settled_sameContract accepts, ?_⟩
    · rw [find?_protocols_apply accepts, if_pos rfl]
    · exact fun alternate member => (mem_aliases_settled accepts).mpr (.inl member)

/-- Learning aliases that are listed already leaves the stored protocols alone. -/
theorem protocols_learnAliases {existing : Protocol}
    (looked : catalogue.protocols.find? protocol.name = some existing)
    (listed : protocol.aliases ⊆ existing.aliases) :
    (catalogue.learnAliases protocol).protocols = catalogue.protocols := by
  apply NameMap.ext_find?
  intro name
  rw [find?_protocols_learnAliases looked, appendNew_of_subset listed]
  split
  · rename_i own
    rw [own, looked]
  · rfl

/-- Registering a protocol that is held changes nothing. -/
theorem Holds.register (holds : catalogue.Holds protocol) :
    catalogue.register protocol = ⟨.ok .unchanged, catalogue, []⟩ := by
  obtain ⟨existing, looked, same, listed⟩ := holds.stored
  have accepts : catalogue.Accepts protocol .unchanged :=
    ⟨holds.sound, holds.free, .unchanged existing looked same⟩
  -- The aliases that would be learnt are known in both places.
  have aliases : (catalogue.learnAliases protocol).aliases = catalogue.aliases := by
    apply NameMap.ext_find?
    intro alternate
    rw [find?_aliases_learnAliases]
    by_cases member : alternate ∈ protocol.aliases
    · rw [holds.leads alternate member, Option.some_or]
    · rw [if_neg member, Option.or_none]
  have protocols := protocols_learnAliases looked listed
  have unchanged : catalogue.learnAliases protocol = catalogue := by
    change { catalogue with
      aliases := (catalogue.learnAliases protocol).aliases
      protocols := (catalogue.learnAliases protocol).protocols } = catalogue
    rw [aliases, protocols]
  rw [register_of_accepts accepts, apply, unchanged, registerLog]

/-! ## Strict catalogues -/

/-- A strict catalogue takes no aliases away. -/
theorem released_of_strict (strict : catalogue.allowRedeclaration = false)
    (accepts : catalogue.Accepts protocol outcome) :
    catalogue.released protocol outcome = [] := by
  cases accepts.settles with
  | added fresh => rfl
  | unchanged existing stored same => rfl
  | replaced existing stored other allowed =>
    rw [strict] at allowed
    cases allowed

/-- After a registration in a strict catalogue the aliases of the protocol lead to its name, and
every other alias leads where it led. -/
theorem find?_aliases_apply_of_strict (strict : catalogue.allowRedeclaration = false)
    (accepts : catalogue.Accepts protocol outcome) (alternate : String) :
    (catalogue.apply protocol outcome).aliases.find? alternate =
      if alternate ∈ protocol.aliases then some protocol.name
      else catalogue.aliases.find? alternate := by
  rw [find?_aliases_apply accepts, released_of_strict strict accepts, if_neg List.not_mem_nil]

/-- In a strict catalogue a registration settles to what was stored, with more aliases at most. -/
theorem settled_widens (strict : catalogue.allowRedeclaration = false)
    (accepts : catalogue.Accepts protocol outcome) {found : Protocol}
    (looked : catalogue.protocols.find? protocol.name = some found) :
    (catalogue.settled protocol outcome).Widens found := by
  cases accepts.settles with
  | added fresh =>
    rw [fresh] at looked
    cases looked
  | unchanged existing stored same =>
    rw [stored] at looked
    cases looked
    simp only [settled, stored]
    exact ⟨found.sameContract_refl, rfl, prefix_appendNew _ _⟩
  | replaced existing stored other allowed =>
    rw [strict] at allowed
    cases allowed

/-- An accepted registration extends a strict catalogue. -/
theorem extends_apply (strict : catalogue.allowRedeclaration = false)
    (accepts : catalogue.Accepts protocol outcome) :
    (catalogue.apply protocol outcome).Extends catalogue where
  stored name found looked := by
    rw [find?_protocols_apply accepts]
    by_cases own : name = protocol.name
    · rw [if_pos own]
      exact ⟨_, rfl, settled_widens strict accepts (own ▸ looked)⟩
    · rw [if_neg own]
      exact ⟨found, looked, .refl found⟩
  table alternate target leads := by
    rw [find?_aliases_apply_of_strict strict accepts]
    split
    · rename_i member
      rw [accepts.free.unshared alternate member target leads]
    · exact leads
  unstored alternate target leads different absent := by
    have other : alternate ≠ protocol.name := by
      rintro rfl
      exact different (accepts.free.unaliased target leads).symm
    rw [find?_protocols_apply accepts, if_neg other]
    exact absent
  unclaimed name found target looked leads := by
    rw [find?_aliases_apply_of_strict strict accepts] at leads
    split at leads
    · rename_i member
      by_cases own : name = protocol.name
      · rw [own]
        exact .inl (Option.some.inj leads).symm
      · rw [accepts.free.unstored name member own] at looked
        cases looked
    · exact .inr leads

/-- Registering any protocols extends a strict catalogue and holds each of them afterwards. -/
theorem Registers.extends {last : Catalogue} {protocols : List Protocol}
    (registers : Registers catalogue protocols last)
    (strict : catalogue.allowRedeclaration = false) :
    last.Extends catalogue ∧ ∀ protocol ∈ protocols, last.Holds protocol := by
  induction registers with
  | nil catalogue => exact ⟨.refl catalogue, fun _ member => absurd member List.not_mem_nil⟩
  | cons accepts _ ih =>
    obtain ⟨grows, holds⟩ := ih (allowRedeclaration_apply.trans strict)
    refine ⟨grows.trans (extends_apply strict accepts), ?_⟩
    rintro protocol (_ | ⟨_, later⟩)
    · exact grows.holds (holds_apply accepts)
    · exact holds protocol later

/-- A history without added aliases extends a strict catalogue, and every protocol accepted on the
way is held at its end. -/
theorem extends_through {history : List Event} (strict : catalogue.allowRedeclaration = false)
    (aliasFree : ∀ event ∈ history, event.operation.givesAlias = false) :
    (catalogue.through history).Extends catalogue ∧
      ∀ protocol ∈ catalogue.acceptedIn history, (catalogue.through history).Holds protocol := by
  induction history generalizing catalogue with
  | nil => exact ⟨.refl catalogue, fun _ member => absurd member List.not_mem_nil⟩
  | cons event rest ih =>
    obtain ⟨first, others⟩ := List.forall_mem_cons.mp aliasFree
    have step : (catalogue.through [event]).Extends catalogue ∧
        ∀ protocol ∈ catalogue.accepted event.system event.operation,
          (catalogue.through [event]).Holds protocol := by
      change (catalogue.perform event.system event.operation).catalogue.Extends catalogue ∧
        ∀ protocol ∈ catalogue.accepted event.system event.operation,
          (catalogue.perform event.system event.operation).catalogue.Holds protocol
      rcases perform_cases event.system catalogue event.operation with
        registers | ⟨alternate, target, adds⟩ | ⟨path, adds⟩
      · exact registers.extends strict
      · rw [adds] at first
        cases first
      · rw [adds]
        exact ⟨(Extends.refl catalogue).of_tables rfl rfl,
          fun _ member => absurd member List.not_mem_nil⟩
    obtain ⟨grows, holds⟩ := ih ((allowRedeclaration_through catalogue [event]).trans strict) others
    refine ⟨grows.trans step.1, ?_⟩
    intro protocol member
    rcases List.mem_append.mp member with now | later
    · exact grows.holds (step.2 protocol now)
    · exact holds protocol later

/-- In a strict catalogue accepted declarations and resolutions are permanent, whatever aliases are
configured. Between two moments of a history no canonical name is lost, and a name that stands for
a protocol keeps standing for it, with more aliases at most. At the second moment every protocol
accepted since the beginning is registered again without any change. -/
theorem permanent_of_strict {given : NameMap String} {start : Catalogue}
    {earlier later : List Event} (built : Built given start)
    (strict : start.allowRedeclaration = false)
    (aliasFree : ∀ event ∈ earlier ++ later, event.operation.givesAlias = false) :
    (start.through earlier).names ⊆ (start.through (earlier ++ later)).names ∧
    (∀ name found, (start.through earlier).resolve name = some found →
      ∃ kept, (start.through (earlier ++ later)).resolve name = some kept ∧
        kept.sameContract found = true ∧ kept.description = found.description ∧
          found.aliases <+: kept.aliases) ∧
    ∀ protocol ∈ start.acceptedIn (earlier ++ later),
      (start.through (earlier ++ later)).register protocol =
        ⟨.ok .unchanged, start.through (earlier ++ later), []⟩ := by
  have after := (List.forall_mem_append.mp aliasFree).2
  have middle_strict := (allowRedeclaration_through start earlier).trans strict
  have grows := (extends_through middle_strict after).1
  rw [← through_append] at grows
  have keyed := built.keyed
  refine ⟨?_, ?_, ?_⟩
  · intro name listed
    obtain ⟨found, looked⟩ := (keyed.through earlier).mem_names.mp listed
    obtain ⟨kept, kept_looked, _⟩ := grows.stored name found looked
    exact (keyed.through (earlier ++ later)).mem_names.mpr ⟨kept, kept_looked⟩
  · intro name found resolved
    obtain ⟨kept, kept_resolved, widens⟩ := grows.resolve resolved
    exact ⟨kept, kept_resolved, widens.contract, widens.description, widens.aliases⟩
  · intro protocol accepted
    exact ((extends_through strict aliasFree).2 protocol accepted).register

/-- The aliases of these settings lead nowhere yet, hide behind a canonical name, and take a
standard alias over. -/
def shadowingSettings : Settings where
  aliases := .ofList
    [("SupportsClose", "Closable"), ("Sized", "IntConvertible"), ("SupportsInt", "Absent")]

/-- A protocol takes up an alias that was configured for it, a list is refused as a whole for an
alias that is configured for another one, and the first protocol learns an alias. -/
theorem permanent_of_strict_shadowing :
    let start : Catalogue := { ofSettingsBase shadowingSettings with
      aliases := standard.aliases.insertAll shadowingSettings.aliases.entries.reverse }
    let files : FileSystem := { root := .directory true [] }
    let closable : Protocol :=
      { name := "Closable", aliases := ["SupportsClose"], methods := [⟨"close", [], .any⟩] }
    let earlier : List Event := [⟨files, .register closable⟩]
    let later : List Event := [
      ⟨files, .registerText <| "protocols:\n  - name: A\n    methods:\n      - name: a\n" ++
        "  - name: B\n    aliases: [SupportsInt]\n    methods:\n      - name: b\n"⟩,
      ⟨files, .addSearchPath "protocols"⟩,
      ⟨files, .register { closable with aliases := ["Shuttable"] }⟩]
    Built shadowingSettings.aliases start ∧ start.allowRedeclaration = false ∧
      (∀ event ∈ earlier ++ later, event.operation.givesAlias = false) ∧
      (start.through earlier).names ⊆ (start.through (earlier ++ later)).names ∧
      (∃ kept, (start.through (earlier ++ later)).resolve "SupportsClose" = some kept ∧
        closable.aliases <+: kept.aliases) ∧
      (start.through (earlier ++ later)).register closable =
        ⟨.ok .unchanged, start.through (earlier ++ later), []⟩ := by
  intro start files closable earlier later
  have built : Built shadowingSettings.aliases start :=
    .configured shadowingSettings _ (List.reverse_perm _)
      (addAliases_eq_ok_iff.mpr ⟨by decide +kernel, rfl⟩)
  have aliasFree : ∀ event ∈ earlier ++ later, event.operation.givesAlias = false := by decide
  obtain ⟨names, resolutions, registrations⟩ := permanent_of_strict built rfl aliasFree
  have resolved : (start.through earlier).resolve "SupportsClose" = some closable := by
    decide +kernel
  obtain ⟨kept, kept_resolved, _, _, widened⟩ := resolutions "SupportsClose" closable resolved
  refine ⟨built, rfl, aliasFree, names, ⟨kept, kept_resolved, widened⟩, ?_⟩
  exact registrations closable (by decide +kernel)

end Catalogue

end Covenant
