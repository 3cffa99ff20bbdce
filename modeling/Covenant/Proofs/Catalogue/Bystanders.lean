import Covenant.Proofs.Catalogue.History

/-!
# Names of other protocols

An accepted registration leaves the names of other protocols alone, with one exception. Where it
replaces a protocol, the aliases that the replaced one lists are taken out of the table, whatever
protocol the table gives them to by then. An alias that was given to another protocol apart from
registrations is lost in this way (`Catalogue.resolve_register_other`); no other name is.
-/
namespace Covenant.Catalogue

variable {catalogue : Catalogue} {protocol : Protocol} {outcome : Outcome}

/-- The released aliases are those of a protocol that is replaced. -/
theorem mem_released_iff {alternate : String} :
    alternate ∈ catalogue.released protocol outcome ↔ outcome = .replaced ∧
      ∃ replaced, catalogue.protocols.find? protocol.name = some replaced ∧
        alternate ∈ replaced.aliases := by
  constructor
  · intro gone
    refine ⟨?_, mem_released gone⟩
    cases outcome with
    | replaced => rfl
    | added => cases gone
    | unchanged => cases gone
  · rintro ⟨rfl, replaced, stored, member⟩
    simpa only [released, stored] using member

/-- A name that stands for another protocol is no canonical name that a registration adds, and no
alias of the registered protocol. -/
theorem Keyed.apart_of_resolve (keyed : catalogue.Keyed) (free : catalogue.Free protocol)
    {name : String} {found : Protocol} (resolved : catalogue.resolve name = some found)
    (other : found.name ≠ protocol.name) :
    name ≠ protocol.name ∧
      (catalogue.protocols.find? name = none → name ∉ protocol.aliases) := by
  cases canonical : catalogue.protocols.find? name with
  | some stored =>
    rw [resolve_of_stored canonical] at resolved
    cases resolved
    exact ⟨keyed name found canonical ▸ other, nofun⟩
  | none =>
    rw [resolve_of_absent canonical] at resolved
    obtain ⟨target, leads, looked⟩ := Option.bind_eq_some_iff.mp resolved
    have named := keyed target found looked
    constructor
    · rintro rfl
      exact other (named.trans (free.unaliased target leads))
    · intro _ member
      exact other (named.trans (free.unshared name member target leads))

/-- After an accepted registration a name that stood for another protocol still does, unless it is
an alias that the registration releases. -/
theorem Keyed.resolve_apply_other (keyed : catalogue.Keyed)
    (accepts : catalogue.Accepts protocol outcome) {name : String} {found : Protocol}
    (resolved : catalogue.resolve name = some found) (other : found.name ≠ protocol.name) :
    (catalogue.apply protocol outcome).resolve name =
      if catalogue.protocols.find? name = none ∧ name ∈ catalogue.released protocol outcome
      then none else some found := by
  obtain ⟨different, unlisted⟩ := keyed.apart_of_resolve accepts.free resolved other
  cases canonical : catalogue.protocols.find? name with
  | some stored =>
    rw [resolve_of_stored canonical] at resolved
    have kept : (catalogue.apply protocol outcome).protocols.find? name = some stored := by
      rw [find?_protocols_apply accepts, if_neg different, canonical]
    rw [resolve_of_stored kept, resolved, if_neg (fun absent => nomatch absent.1)]
  | none =>
    rw [resolve_of_absent canonical] at resolved
    obtain ⟨target, leads, looked⟩ := Option.bind_eq_some_iff.mp resolved
    have absent : (catalogue.apply protocol outcome).protocols.find? name = none := by
      rw [find?_protocols_apply accepts, if_neg different, canonical]
    rw [resolve_of_absent absent, find?_aliases_apply accepts, if_neg (unlisted canonical)]
    by_cases gone : name ∈ catalogue.released protocol outcome
    · rw [if_pos gone, if_pos ⟨rfl, gone⟩, Option.bind_none]
    · have apart : target ≠ protocol.name := keyed target found looked ▸ other
      rw [if_neg gone, if_neg (fun released => gone released.2), leads, Option.bind_some,
        find?_protocols_apply accepts, if_neg apart, looked]

/-- After any history, an accepted registration leaves every name of another protocol as it was,
except that replacing a protocol takes away the aliases which that one lists and the table gives
to another one. Such an alias then stands for nothing. -/
theorem resolve_register_other {given : NameMap String} {start : Catalogue}
    (built : Built given start) (history : List Event)
    (accepted : ((start.through history).register protocol).result = .ok outcome)
    {name : String} {found : Protocol}
    (resolved : (start.through history).resolve name = some found)
    (other : found.name ≠ protocol.name) :
    ((start.through history).register protocol).catalogue.resolve name =
      if outcome = .replaced ∧ (start.through history).protocols.find? name = none ∧
        ∃ replaced, (start.through history).protocols.find? protocol.name = some replaced ∧
          name ∈ replaced.aliases
      then none else some found := by
  rw [result_register] at accepted
  have accepts := outcome_eq_ok_iff.mp accepted
  rw [register_of_accepts accepts,
    (built.keyed.through history).resolve_apply_other accepts resolved other]
  simp only [mem_released_iff, and_left_comm]

/-- The alias of one protocol is given to another one, which the first protocol still lists. -/
def repointedHistory : List Event :=
  let files : FileSystem := { root := .directory true [] }
  [⟨files, .register { name := "Closable", aliases := ["Shut", "Close"]
                       methods := [⟨"close", [], .any⟩] }⟩,
    ⟨files, .register { name := "Sealable", methods := [⟨"seal", [], .any⟩] }⟩,
    ⟨files, .addAlias "Shut" "Sealable"⟩]

/-- When the first protocol is replaced, the canonical name of the second one stays and the alias
that was given to it is lost. -/
theorem resolve_register_other_repointed :
    let lenient := ofSettingsBase { allowRedeclaration := true, includeStandard := false }
    let reached := lenient.through repointedHistory
    let closable : Protocol := { name := "Closable", methods := [⟨"close", [], .bool⟩] }
    let sealable : Protocol := { name := "Sealable", methods := [⟨"seal", [], .any⟩] }
    Built .empty lenient ∧ (reached.register closable).result = .ok .replaced ∧
      reached.resolve "Sealable" = some sealable ∧ reached.resolve "Shut" = some sealable ∧
      sealable.name ≠ closable.name ∧
      (reached.register closable).catalogue.resolve "Sealable" = some sealable ∧
      (reached.register closable).catalogue.resolve "Shut" = none := by
  intro lenient reached closable sealable
  have built : Built .empty lenient :=
    .configured { allowRedeclaration := true, includeStandard := false } [] .nil rfl
  have accepted : (reached.register closable).result = .ok .replaced :=
    eq_ok_of_toOption (by decide +kernel)
  have canonical : reached.resolve "Sealable" = some sealable := by decide +kernel
  have given : reached.resolve "Shut" = some sealable := by decide +kernel
  have other : sealable.name ≠ closable.name := by decide
  refine ⟨built, accepted, canonical, given, other, ?_, ?_⟩
  · rw [resolve_register_other built repointedHistory accepted canonical other]
    decide +kernel
  · rw [resolve_register_other built repointedHistory accepted given other]
    exact if_pos ⟨rfl, by decide +kernel,
      { name := "Closable", aliases := ["Shut", "Close"], methods := [⟨"close", [], .any⟩] },
      by decide +kernel, by decide⟩

/-- Replacing a protocol takes an alias from another one: before the registration is accepted the
alias stands for a protocol of another name, and afterwards for nothing. -/
theorem names_disturbed_by_replacement :
    let lenient := ofSettingsBase { allowRedeclaration := true, includeStandard := false }
    let reached := lenient.through repointedHistory
    let closable : Protocol := { name := "Closable", methods := [⟨"close", [], .bool⟩] }
    let sealable : Protocol := { name := "Sealable", methods := [⟨"seal", [], .any⟩] }
    Built .empty lenient ∧ (reached.register closable).result.toBool = true ∧
      reached.resolve "Shut" = some sealable ∧ sealable.name ≠ closable.name ∧
      (reached.register closable).catalogue.resolve "Shut" ≠ some sealable :=
  ⟨.configured { allowRedeclaration := true, includeStandard := false } [] .nil rfl,
    by decide +kernel, by decide +kernel, by decide, by decide +kernel⟩

end Covenant.Catalogue
