import Covenant.Proofs.Catalogue.AliasIndex

/-!
# Catalogues from settings

Settings hold their aliases in no order, and a catalogue may be given them in any. All orders come
to the same: the same catalogue, or a refusal when an alias is blank or stands for itself
(`Catalogue.ofSettings_order_independent`). What a name stands for in that catalogue is a matter of
the settings alone (`Settings.StandsFor`): the builtin protocol of that name comes first, then the
configured alias, whether or not it leads anywhere, and an alias of a builtin protocol last.
-/
namespace Covenant

/-- The protocols that are in a catalogue from the start. -/
def Settings.builtins (settings : Settings) : List Protocol :=
  if settings.includeStandard then Protocol.standard else []

/-- Settings give an alias that is blank or stands for itself. -/
def Settings.Misnames (settings : Settings) (alternate target : String) : Prop :=
  settings.aliases.find? alternate = some target ∧
    (Text.isBlank alternate = true ∨ alternate = target)

/-- A name stands for a builtin protocol: by its canonical name, or else because the name is
configured for it, or else because it lists the name and nothing is configured. -/
def Settings.StandsFor (settings : Settings) (name : String) (protocol : Protocol) : Prop :=
  protocol ∈ settings.builtins ∧ (protocol.name = name ∨
    (∀ builtin ∈ settings.builtins, builtin.name ≠ name) ∧
      match settings.aliases.find? name with
      | some target => protocol.name = target
      | none => name ∈ protocol.aliases)

namespace Catalogue

variable {settings : Settings} {catalogue : Catalogue} {order : List (String × String)}
  {protocol : Protocol} {name : String}

/-- Before names are given, the builtin protocols are stored and the table is in step with their
alias lists. -/
theorem indexed_ofSettingsBase (settings : Settings) : (ofSettingsBase settings).Indexed := by
  have is_base : (if settings.includeStandard then standard else empty) = empty ∨
      (if settings.includeStandard then standard else empty) = standard := by
    cases settings.includeStandard
    · exact .inl rfl
    · exact .inr rfl
  exact (preserves_of_base Indexed.apply indexed_empty is_base).of_tables rfl rfl

/-- The builtin protocols are the ones listed before names are given. -/
theorem mem_list_ofSettingsBase :
    protocol ∈ (ofSettingsBase settings).list ↔ protocol ∈ settings.builtins := by
  unfold ofSettingsBase Settings.builtins
  cases settings.includeStandard with
  | false => exact Iff.rfl
  | true =>
    have perm : standard.list.Perm Protocol.standard := by decide +kernel
    exact perm.mem_iff

/-- Giving names in order is refused at one that may not be configured, unless there is none. -/
theorem addAliases_eq_error {alternate target : String} (member : (alternate, target) ∈ order)
    (refused : acceptsAlias alternate target = false) :
    ∃ entry, (entry ∈ order ∧ acceptsAlias entry.1 entry.2 = false) ∧
      catalogue.addAliases order = .error (.invalid (.badAlias entry.1 entry.2)) := by
  induction order generalizing catalogue with
  | nil => cases member
  | cons head rest ih =>
    unfold addAliases
    cases first : acceptsAlias head.1 head.2 with
    | false => exact ⟨head, ⟨List.mem_cons_self, first⟩, rfl⟩
    | true =>
      rcases List.mem_cons.mp member with rfl | later
      · rw [refused] at first
        cases first
      · obtain ⟨entry, ⟨found, bad⟩, answer⟩ := @ih (catalogue.addAlias head.1 head.2) later
        exact ⟨entry, ⟨List.mem_cons_of_mem _ found, bad⟩, answer⟩

/-- An alias may not be configured when it is blank or stands for itself. -/
theorem acceptsAlias_eq_false {alternate target : String} :
    acceptsAlias alternate target = false ↔
      Text.isBlank alternate = true ∨ alternate = target := by
  unfold acceptsAlias
  cases Text.isBlank alternate <;> simp

/-- A builtin protocol is stored under its name before names are given. -/
theorem find?_ofSettingsBase : (ofSettingsBase settings).protocols.find? name = some protocol ↔
    protocol ∈ settings.builtins ∧ protocol.name = name := by
  have keyed := (indexed_ofSettingsBase settings).keyed
  rw [← mem_list_ofSettingsBase]
  constructor
  · intro found
    exact ⟨NameMap.mem_values.mpr ⟨name, found⟩, keyed name protocol found⟩
  · rintro ⟨listed, rfl⟩
    exact keyed.mem_list.mp listed

/-- Configured aliases are looked up after the canonical names of the builtin protocols and before
their aliases. -/
theorem resolve_of_configured (distinct : (order.map (·.1)).Nodup)
    (entries : ∀ name, order.lookup name = settings.aliases.find? name)
    (protocols : catalogue.protocols = (ofSettingsBase settings).protocols)
    (aliases : catalogue.aliases = (ofSettingsBase settings).aliases.insertAll order) :
    catalogue.resolve name = some protocol ↔ settings.StandsFor name protocol := by
  unfold Settings.StandsFor
  cases canonical : (ofSettingsBase settings).protocols.find? name with
  | some stored =>
    obtain ⟨builtin, named⟩ := find?_ofSettingsBase.mp canonical
    rw [resolve_of_stored (protocols ▸ canonical), ← canonical, find?_ofSettingsBase]
    refine and_congr_right fun _ => ⟨.inl, fun stands => stands.resolve_right fun other => ?_⟩
    exact other.1 stored builtin named
  | none =>
    have unnamed : ∀ builtin ∈ settings.builtins, builtin.name ≠ name := by
      intro builtin member named
      rw [find?_ofSettingsBase.mpr ⟨member, named⟩] at canonical
      cases canonical
    rw [resolve_of_absent (protocols ▸ canonical), protocols, aliases,
      NameMap.find?_insertAll _ distinct, entries]
    cases settings.aliases.find? name with
    | some target =>
      rw [Option.some_or, Option.bind_some, find?_ofSettingsBase]
      refine and_congr_right fun member => ?_
      simp only [unnamed protocol member, false_or, and_iff_right unnamed]
    | none =>
      rw [Option.none_or, ← resolve_of_absent canonical,
        (indexed_ofSettingsBase settings).resolve_eq_some_iff, mem_list_ofSettingsBase,
        Protocol.answersTo_iff]
      refine and_congr_right fun member => ?_
      simp only [unnamed protocol member, false_or, and_iff_right unnamed]

/-- Building a catalogue from settings does not depend on the order in which their aliases are
taken. When an alias is blank or stands for itself every order is refused, each for such an alias;
else every order builds the same catalogue, in which a name stands for what the settings say. -/
theorem ofSettings_order_independent (settings : Settings) {order other : List (String × String)}
    (order_perm : order.Perm settings.aliases.entries)
    (other_perm : other.Perm settings.aliases.entries) :
    ((∃ alternate target, settings.Misnames alternate target) →
      ∀ taken ∈ [order, other], ∃ alternate target, settings.Misnames alternate target ∧
        ofSettingsInOrder settings taken = .error (.invalid (.badAlias alternate target))) ∧
    ((∀ alternate target, ¬settings.Misnames alternate target) →
      ∃ catalogue, ofSettingsInOrder settings order = .ok catalogue ∧
        ofSettingsInOrder settings other = .ok catalogue ∧
        ∀ name protocol, catalogue.resolve name = some protocol ↔
          settings.StandsFor name protocol) := by
  have given {taken : List (String × String)} (perm : taken.Perm settings.aliases.entries)
      (alternate target : String) : settings.Misnames alternate target ↔
        (alternate, target) ∈ taken ∧ acceptsAlias alternate target = false := by
    rw [Settings.Misnames, NameMap.find?_eq_some_iff, perm.mem_iff, acceptsAlias_eq_false]
  constructor
  · rintro ⟨alternate, target, bad⟩ taken member
    have perm : taken.Perm settings.aliases.entries := by
      simp only [List.mem_cons, List.not_mem_nil, or_false] at member
      rcases member with rfl | rfl
      · exact order_perm
      · exact other_perm
    obtain ⟨present, refused⟩ := (given perm alternate target).mp bad
    obtain ⟨entry, found, answer⟩ := addAliases_eq_error present refused
    exact ⟨entry.1, entry.2, (given perm _ _).mpr found, answer⟩
  · intro acceptable
    have accepts {taken : List (String × String)} (perm : taken.Perm settings.aliases.entries) :
        ∀ entry ∈ taken, acceptsAlias entry.1 entry.2 = true := by
      intro entry found
      rw [← Bool.not_eq_false]
      exact fun refused => acceptable _ _ ((given perm _ _).mpr ⟨found, refused⟩)
    have distinct : (order.map (·.1)).Nodup :=
      (order_perm.map _).nodup_iff.mpr settings.aliases.nodup_names
    have entries (name : String) : order.lookup name = settings.aliases.find? name := by
      apply Option.ext
      intro target
      rw [NameMap.lookup_eq_some_iff distinct, order_perm.mem_iff, NameMap.find?_eq_some_iff]
    have same := NameMap.insertAll_of_perm (ofSettingsBase settings).aliases distinct
      (other_perm.trans order_perm.symm)
    refine ⟨_, addAliases_eq_ok_iff.mpr ⟨accepts order_perm, rfl⟩,
      addAliases_eq_ok_iff.mpr ⟨accepts other_perm, ?_⟩, fun name protocol =>
        resolve_of_configured distinct entries rfl rfl⟩
    rw [same]

/-- Settings with aliases for a canonical name, over the alias of a builtin protocol, for another
alias, and for nothing. -/
def overlappingSettings : Settings where
  aliases := .ofList [("Sized", "IntConvertible"), ("SupportsInt", "Sized"),
    ("Length", "SupportsLen"), ("SupportsFloat", "Absent")]

/-- Both ways round the same catalogue is built. A canonical name stays what it is, a configured
alias comes before one of a builtin protocol even if it leads nowhere, and it is not followed
further. -/
theorem ofSettings_order_independent_overlapping :
    let order := overlappingSettings.aliases.entries
    ∃ sized ∈ Protocol.standard, sized.name = "Sized" ∧ order.reverse ≠ order ∧
      ∃ catalogue, ofSettingsInOrder overlappingSettings order.reverse = .ok catalogue ∧
        ofSettings overlappingSettings = .ok catalogue ∧
        catalogue.resolve "Sized" = some sized ∧ catalogue.resolve "SupportsInt" = some sized ∧
        catalogue.resolve "SupportsLen" = some sized ∧ catalogue.resolve "Length" = none ∧
        catalogue.resolve "SupportsFloat" = none := by
  intro order
  have acceptable : ∀ alternate target, ¬overlappingSettings.Misnames alternate target := by
    rintro alternate target ⟨given, bad⟩
    have accepted : ∀ entry ∈ order, acceptsAlias entry.1 entry.2 = true := by decide +kernel
    have refused := acceptsAlias_eq_false.mpr bad
    rw [accepted _ (NameMap.find?_eq_some_iff.mp given)] at refused
    cases refused
  obtain ⟨catalogue, reversed, built, stands⟩ :=
    (ofSettings_order_independent overlappingSettings (List.reverse_perm order) (.refl _)).2
      acceptable
  -- Neither name is canonical, and their targets are not either.
  have nothing (name target : String) (given : overlappingSettings.aliases.find? name = some target)
      (absent : ∀ builtin ∈ overlappingSettings.builtins, builtin.name ≠ name ∧
        builtin.name ≠ target) : catalogue.resolve name = none := by
    refine Option.eq_none_iff_forall_ne_some.mpr fun protocol found => ?_
    obtain ⟨member, named | ⟨_, targeted⟩⟩ := (stands name protocol).mp found
    · exact (absent protocol member).1 named
    · rw [given] at targeted
      exact (absent protocol member).2 targeted
  refine ⟨Protocol.standard[5], by decide, rfl, by decide +kernel, catalogue, reversed, built, ?_⟩
  refine ⟨(stands _ _).mpr ⟨by decide, .inl rfl⟩, (stands _ _).mpr ⟨by decide, .inr ?_⟩,
    (stands _ _).mpr ⟨by decide, .inr ?_⟩, nothing _ "SupportsLen" (by decide +kernel) ?_,
    nothing _ "Absent" (by decide +kernel) ?_⟩
  · have given : overlappingSettings.aliases.find? "SupportsInt" = some "Sized" := by
      decide +kernel
    exact ⟨by decide, given ▸ rfl⟩
  · have unconfigured : overlappingSettings.aliases.find? "SupportsLen" = none := by
      decide +kernel
    rw [unconfigured]
    decide
  · decide
  · decide

end Catalogue

end Covenant
