import Covenant.Proofs.Catalogue.History

/-!
# The table of aliases

The table of aliases is a second copy of what the alias lists of the stored protocols say. As long
as no alias is given apart from a registration, the two agree (`Catalogue.Indexed`): every accepted
registration keeps them in step, whatever its outcome. A look-up then answers exactly with the
stored protocol that answers to the name (`Catalogue.resolve_iff_answersTo`).
-/
namespace Covenant.Catalogue

/-- The table of aliases says what the alias lists of the stored protocols say. -/
structure Indexed (catalogue : Catalogue) : Prop where
  /-- Protocols are stored under their own names. -/
  keyed : catalogue.Keyed
  /-- The table leads a name to the stored protocols that list it. -/
  listed : ∀ alternate target, catalogue.aliases.find? alternate = some target ↔
    ∃ owner, catalogue.protocols.find? target = some owner ∧ alternate ∈ owner.aliases
  /-- A name in the table is the canonical name of no other protocol. -/
  apart : ∀ alternate target other, catalogue.aliases.find? alternate = some target →
    catalogue.protocols.find? alternate = some other → alternate = target

variable {catalogue : Catalogue} {protocol : Protocol} {outcome : Outcome}

/-- The empty catalogue lists no aliases. -/
theorem indexed_empty : Indexed .empty where
  keyed _ _ found := by cases found
  listed _ _ := by simp [empty]
  apart _ _ _ found := by cases found

namespace Indexed

/-- After an accepted registration the table still leads a name to the protocols that list it. -/
theorem listed_apply (indexed : catalogue.Indexed) (accepts : catalogue.Accepts protocol outcome)
    (alternate target : String) :
    (catalogue.apply protocol outcome).aliases.find? alternate = some target ↔
      ∃ owner, (catalogue.apply protocol outcome).protocols.find? target = some owner ∧
        alternate ∈ owner.aliases := by
  rw [find?_aliases_apply accepts, find?_protocols_apply accepts]
  by_cases own : target = protocol.name
  · -- The aliases of the settled protocol are the new ones and those that were not released.
    subst own
    simp only [↓reduceIte, Option.some.injEq, exists_eq_left', mem_aliases_settled accepts]
    by_cases new : alternate ∈ protocol.aliases
    · simp [new]
    · by_cases gone : alternate ∈ catalogue.released protocol outcome
      · simp [new, gone]
      · simp [new, gone, indexed.listed]
  · -- No other protocol lists a new or a released alias.
    rw [if_neg own]
    have kept : ∀ owner, catalogue.protocols.find? target = some owner →
        alternate ∈ owner.aliases → alternate ∉ protocol.aliases ∧
          alternate ∉ catalogue.released protocol outcome := by
      intro owner stored member
      have leads := (indexed.listed alternate target).mpr ⟨owner, stored, member⟩
      constructor
      · intro new
        exact own (accepts.free.unshared alternate new target leads)
      · intro gone
        obtain ⟨existing, replaced, member'⟩ := mem_released gone
        have leads' := (indexed.listed alternate protocol.name).mpr ⟨existing, replaced, member'⟩
        exact own (Option.some.inj (leads.symm.trans leads'))
    constructor
    · intro leads
      split at leads
      · exact absurd (Option.some.inj leads).symm own
      · split at leads
        · cases leads
        · exact (indexed.listed alternate target).mp leads
    · rintro ⟨owner, stored, member⟩
      obtain ⟨old, remains⟩ := kept owner stored member
      rw [if_neg old, if_neg remains]
      exact (indexed.listed alternate target).mpr ⟨owner, stored, member⟩

/-- After an accepted registration no name in the table is the canonical name of another
protocol. -/
theorem apart_apply (indexed : catalogue.Indexed) (accepts : catalogue.Accepts protocol outcome)
    (alternate target : String) (other : Protocol)
    (leads : (catalogue.apply protocol outcome).aliases.find? alternate = some target)
    (stored : (catalogue.apply protocol outcome).protocols.find? alternate = some other) :
    alternate = target := by
  rw [find?_aliases_apply accepts] at leads
  rw [find?_protocols_apply accepts] at stored
  by_cases own : alternate = protocol.name
  · rw [own] at leads ⊢
    split at leads
    · exact Option.some.inj leads
    · split at leads
      · cases leads
      · exact (accepts.free.unaliased target leads).symm
  · rw [if_neg own] at stored
    split at leads
    · rename_i new
      rw [accepts.free.unstored alternate new own] at stored
      cases stored
    · split at leads
      · cases leads
      · exact indexed.apart alternate target other leads stored

/-- An accepted registration keeps the table in step with the alias lists. -/
theorem apply (indexed : catalogue.Indexed) (accepts : catalogue.Accepts protocol outcome) :
    (catalogue.apply protocol outcome).Indexed where
  keyed := indexed.keyed.apply accepts
  listed := indexed.listed_apply accepts
  apart := indexed.apart_apply accepts

/-- A table in step with the alias lists depends on nothing else. -/
theorem of_tables {base : Catalogue} (indexed : base.Indexed)
    (protocols : catalogue.protocols = base.protocols)
    (aliases : catalogue.aliases = base.aliases) : catalogue.Indexed where
  keyed := by simpa only [Keyed, protocols] using indexed.keyed
  listed := by simpa only [protocols, aliases] using indexed.listed
  apart := by simpa only [protocols, aliases] using indexed.apart

/-- A canonical name is an alias of no other stored protocol. -/
theorem not_alias_of_other (indexed : catalogue.Indexed) {owner other : Protocol}
    (owner_listed : owner ∈ catalogue.list) (other_listed : other ∈ catalogue.list)
    (member : other.name ∈ owner.aliases) : other = owner := by
  have owner_stored := indexed.keyed.mem_list.mp owner_listed
  have other_stored := indexed.keyed.mem_list.mp other_listed
  have leads := (indexed.listed other.name owner.name).mpr ⟨owner, owner_stored, member⟩
  have name := indexed.apart _ _ _ leads other_stored
  rw [name, owner_stored] at other_stored
  exact (Option.some.inj other_stored).symm

/-- A look-up answers with a protocol exactly when that one is stored and answers to the name. -/
theorem resolve_eq_some_iff (indexed : catalogue.Indexed) {name : String} :
    catalogue.resolve name = some protocol ↔
      protocol ∈ catalogue.list ∧ protocol.answersTo name = true := by
  rw [Protocol.answersTo_iff]
  cases canonical : catalogue.protocols.find? name with
  | some stored =>
    rw [resolve_of_stored canonical]
    have stored_name := indexed.keyed name stored canonical
    have stored_listed : stored ∈ catalogue.list := NameMap.mem_values.mpr ⟨name, canonical⟩
    constructor
    · rintro ⟨⟩
      exact ⟨stored_listed, .inl stored_name⟩
    · rintro ⟨listed, answers⟩
      rcases answers with named | member
      · have found := indexed.keyed.mem_list.mp listed
        rwa [named, canonical] at found
      · rw [indexed.not_alias_of_other listed stored_listed (stored_name ▸ member)]
  | none =>
    rw [resolve_of_absent canonical]
    constructor
    · intro found
      obtain ⟨target, leads, found⟩ := Option.bind_eq_some_iff.mp found
      obtain ⟨owner, stored, member⟩ := (indexed.listed name target).mp leads
      rw [found] at stored
      cases stored
      exact ⟨NameMap.mem_values.mpr ⟨target, found⟩, .inr member⟩
    · rintro ⟨listed, answers⟩
      have found := indexed.keyed.mem_list.mp listed
      rcases answers with named | member
      · rw [named, canonical] at found
        cases found
      · have leads := (indexed.listed name protocol.name).mpr ⟨protocol, found, member⟩
        rw [leads]
        exact found

end Indexed

/-- A catalogue as it is made without configured aliases has its table in step with the alias
lists. -/
theorem Built.indexed {given : NameMap String} (built : Built given catalogue)
    (unnamed : given = .empty) : catalogue.Indexed := by
  obtain ⟨base, order, is_base, order_perm, protocols, aliases⟩ := built.tables
  have nothing : order = [] := by
    rw [unnamed] at order_perm
    exact order_perm.eq_nil
  have indexed : base.Indexed := preserves_of_base Indexed.apply indexed_empty is_base
  rw [nothing] at aliases
  exact indexed.of_tables protocols aliases

/-- A history without added aliases keeps the table in step with the alias lists. -/
theorem Indexed.through (indexed : catalogue.Indexed) {history : List Event}
    (aliasFree : ∀ event ∈ history, event.operation.givesAlias = false) :
    (catalogue.through history).Indexed :=
  through_preserves_of_aliasFree Indexed.apply (fun _ indexed => indexed.of_tables rfl rfl)
    aliasFree indexed

/-- After any history without configured and added aliases, a look-up answers with a protocol
exactly when that one is stored and answers to the name. No two stored protocols answer to one
name, no alias is the canonical name of another protocol, and the table holds nothing that is not
in the alias list of its owner. -/
theorem resolve_iff_answersTo {start : Catalogue} {history : List Event}
    (built : Built .empty start)
    (aliasFree : ∀ event ∈ history, event.operation.givesAlias = false) :
    (∀ name protocol, (start.through history).resolve name = some protocol ↔
      protocol ∈ (start.through history).list ∧ protocol.answersTo name = true) ∧
    (∀ name, ∀ left ∈ (start.through history).list, ∀ right ∈ (start.through history).list,
      left.answersTo name = true → right.answersTo name = true → left = right) ∧
    (∀ owner ∈ (start.through history).list, ∀ other ∈ (start.through history).list,
      other.name ∈ owner.aliases → other = owner) ∧
    (∀ alternate target, (start.through history).aliases.find? alternate = some target →
      ∃ owner ∈ (start.through history).list,
        owner.name = target ∧ alternate ∈ owner.aliases) := by
  have indexed := (built.indexed rfl).through aliasFree
  refine ⟨fun name protocol => indexed.resolve_eq_some_iff, ?_, ?_, ?_⟩
  · intro name left left_listed right right_listed left_answers right_answers
    have left_found := indexed.resolve_eq_some_iff.mpr ⟨left_listed, left_answers⟩
    have right_found := indexed.resolve_eq_some_iff.mpr ⟨right_listed, right_answers⟩
    exact Option.some.inj (left_found.symm.trans right_found)
  · intro owner owner_listed other other_listed member
    exact indexed.not_alias_of_other owner_listed other_listed member
  · intro alternate target leads
    obtain ⟨owner, stored, member⟩ := (indexed.listed alternate target).mp leads
    exact ⟨owner, NameMap.mem_values.mpr ⟨target, stored⟩,
      indexed.keyed target owner stored, member⟩

/-- A history that lists a canonical name among its own aliases, has a list refused as a whole for
an alias of another protocol, and replaces a protocol by one with another alias. -/
def replacingHistory : List Event :=
  let files : FileSystem := { root := .directory true [] }
  [⟨files, .register { name := "Closable", aliases := ["SupportsClose", "Closable"]
                       methods := [⟨"close", [], .bool⟩] }⟩,
    ⟨files, .registerText <| "protocols:\n  - name: A\n    methods:\n      - name: a\n" ++
      "  - name: B\n    aliases: [SupportsClose]\n    methods:\n      - name: b\n"⟩,
    ⟨files, .register { name := "Closable", aliases := ["Shuttable"]
                        methods := [⟨"close", [], .any⟩] }⟩]

/-- Once a protocol is replaced, the new alias stands for it and the old one for nothing. -/
theorem resolve_iff_answersTo_replaced :
    let lenient := ofSettingsBase { allowRedeclaration := true }
    let closable : Protocol :=
      { name := "Closable", aliases := ["Shuttable"], methods := [⟨"close", [], .any⟩] }
    Built .empty lenient ∧ (∀ event ∈ replacingHistory, event.operation.givesAlias = false) ∧
      (lenient.through replacingHistory).resolve "Shuttable" = some closable ∧
      (lenient.through replacingHistory).resolve "SupportsClose" ≠ some closable := by
  intro lenient closable
  have built : Built .empty lenient :=
    .configured { allowRedeclaration := true } [] .nil rfl
  have aliasFree : ∀ event ∈ replacingHistory, event.operation.givesAlias = false := by decide
  have answers := (resolve_iff_answersTo built aliasFree).1
  refine ⟨built, aliasFree, (answers "Shuttable" closable).mpr ?_, ?_⟩
  · decide +kernel
  · intro found
    have answered := ((answers "SupportsClose" closable).mp found).2
    revert answered
    decide

end Covenant.Catalogue
