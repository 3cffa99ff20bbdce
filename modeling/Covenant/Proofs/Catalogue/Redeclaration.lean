import Covenant.Proofs.Catalogue.Permanence

/-!
# Redeclaring what is stored

Registering a stored protocol again changes nothing exactly when the protocol is held: its names
are free and lead to it (`Catalogue.register_listed_iff`). Accepted registrations keep every stored
protocol held, replacements included (`Catalogue.Upheld.apply`). An alias that is given apart from
a registration keeps them held exactly when no stored protocol but its target answers to it
(`Catalogue.Upheld.addAlias_iff`). A given alias that hides behind the canonical name of a stored
protocol is harmful in this sense though it disturbs no look-up: the names are checked against the
table, and before the contract is compared with the stored one.
-/
namespace Covenant.Catalogue

variable {catalogue : Catalogue} {protocol : Protocol} {outcome : Outcome}

/-! ## Once more -/

/-- What keeps a name from being an alias of a protocol is another protocol. -/
theorem ne_of_ownerOfAlias? {name alternate owner : String}
    (owned : catalogue.ownerOfAlias? name alternate = some owner) : owner ≠ name := by
  unfold ownerOfAlias? at owned
  split at owned
  · rename_i shadows
    rw [← Option.some.inj owned]
    exact shadows.1
  · simpa using (Option.filter_eq_some_iff.mp owned).2

/-- A taken name is one of the names of the protocol, and it is taken by another protocol. -/
theorem takenName?_eq_some {alternate owner : String}
    (taken : catalogue.takenName? protocol = some (alternate, owner)) :
    protocol.answersTo alternate = true ∧ owner ≠ protocol.name := by
  rw [takenName?_eq] at taken
  obtain ⟨name, member, owned⟩ := List.exists_of_findSome?_eq_some taken
  obtain ⟨other, owned, same⟩ := Option.map_eq_some_iff.mp owned
  cases same
  rw [List.mem_cons, eq_comm] at member
  exact ⟨Protocol.answersTo_iff.mpr member, ne_of_ownerOfAlias? owned⟩

/-- A well-formed protocol one of whose names is not free is refused for a name that another one
has. -/
theorem register_of_not_free (sound : protocol.fault? = none) (taken : ¬catalogue.Free protocol) :
    ∃ alternate owner,
      catalogue.register protocol = ⟨.error (.aliasTaken alternate owner), catalogue, []⟩ ∧
        protocol.answersTo alternate = true ∧ owner ≠ protocol.name := by
  cases found : catalogue.takenName? protocol with
  | none => exact absurd (takenName?_eq_none.mp found) taken
  | some entry =>
    obtain ⟨alternate, owner⟩ := entry
    have refused : catalogue.outcome protocol = .error (.aliasTaken alternate owner) := by
      unfold Catalogue.outcome
      rw [sound, found]
    exact ⟨alternate, owner, register_of_error refused, takenName?_eq_some found⟩

/-- A stored protocol whose names are free is registered again, and the table gains those of its
aliases that it lacks. Nothing else changes. -/
theorem register_of_free (sound : protocol.fault? = none) (free : catalogue.Free protocol)
    (stored : catalogue.protocols.find? protocol.name = some protocol) :
    ∃ table, catalogue.register protocol =
        ⟨.ok .unchanged, { catalogue with aliases := table }, []⟩ ∧
      ∀ alternate, table.find? alternate = (catalogue.aliases.find? alternate).or
        (if alternate ∈ protocol.aliases then some protocol.name else none) := by
  have accepts : catalogue.Accepts protocol .unchanged :=
    ⟨sound, free, .unchanged protocol stored protocol.sameContract_refl⟩
  refine ⟨(catalogue.learnAliases protocol).aliases, ?_, find?_aliases_learnAliases⟩
  rw [register_of_accepts accepts, apply, registerLog]
  congr 1
  change { catalogue with
    aliases := (catalogue.learnAliases protocol).aliases
    protocols := (catalogue.learnAliases protocol).protocols } = _
  rw [protocols_learnAliases stored (List.Subset.refl _)]

/-- Registering a stored protocol again changes nothing exactly when the protocol is held. -/
theorem register_listed_iff (sound : protocol.fault? = none)
    (stored : catalogue.protocols.find? protocol.name = some protocol) :
    catalogue.register protocol = ⟨.ok .unchanged, catalogue, []⟩ ↔
      catalogue.Holds protocol := by
  refine ⟨fun unchanged => ?_, Holds.register⟩
  have accepts : catalogue.Accepts protocol .unchanged := by
    rw [← outcome_eq_ok_iff, ← result_register, unchanged]
  refine ⟨sound, accepts.free, ⟨protocol, stored, protocol.sameContract_refl, fun _ => id⟩, ?_⟩
  intro alternate member
  rw [register_of_accepts accepts] at unchanged
  have same : catalogue.apply protocol .unchanged = catalogue := congrArg Effect.catalogue unchanged
  rw [← same, find?_aliases_apply accepts, if_pos member]

/-! ## What keeps stored protocols held -/

/-- Every stored protocol is held. -/
structure Upheld (catalogue : Catalogue) : Prop where
  /-- Protocols are stored under their own names. -/
  keyed : catalogue.Keyed
  /-- Each of them is held. -/
  holds : ∀ protocol ∈ catalogue.list, catalogue.Holds protocol

/-- No stored protocol but the target answers to a name. -/
def Harmless (catalogue : Catalogue) (alternate target : String) : Prop :=
  ∀ protocol ∈ catalogue.list, protocol.answersTo alternate = true → protocol.name = target

/-- Every alias that a history adds is harmless when it is added. -/
def AddsHarmless (catalogue : Catalogue) : List Event → Prop
  | [] => True
  | event :: rest =>
    (∀ alternate target, event.operation = .addAlias alternate target →
      catalogue.Harmless alternate target) ∧
      (catalogue.perform event.system event.operation).catalogue.AddsHarmless rest

namespace Upheld

/-- Nothing is stored in the empty catalogue. -/
theorem empty : Upheld .empty where
  keyed := nofun
  holds _ listed := absurd listed List.not_mem_nil

/-- Whether stored protocols are held depends on nothing but them and the table. -/
theorem of_tables {base : Catalogue} (upheld : base.Upheld)
    (protocols : catalogue.protocols = base.protocols)
    (aliases : catalogue.aliases = base.aliases) : catalogue.Upheld where
  keyed := by simpa only [Keyed, protocols] using upheld.keyed
  holds protocol listed := by
    rw [list, protocols] at listed
    exact ((Extends.refl base).of_tables protocols aliases).holds (upheld.holds protocol listed)

/-- After an accepted registration what it settled to is held. -/
theorem holds_settled (upheld : catalogue.Upheld) (accepts : catalogue.Accepts protocol outcome) :
    (catalogue.apply protocol outcome).Holds (catalogue.settled protocol outcome) := by
  have named := settled_name accepts
  -- An alias of the settled protocol is a new one, or one of the held protocol before it.
  have origin (alternate : String)
      (member : alternate ∈ (catalogue.settled protocol outcome).aliases) :
      (catalogue.apply protocol outcome).aliases.find? alternate = some protocol.name ∧
        (alternate ≠ protocol.name → catalogue.protocols.find? alternate = none) := by
    rw [find?_aliases_apply accepts]
    by_cases new : alternate ∈ protocol.aliases
    · exact ⟨if_pos new, accepts.free.unstored alternate new⟩
    · obtain ⟨kept, existing, stored, old⟩ :=
        ((mem_aliases_settled accepts).mp member).resolve_left new
      have existing_named := upheld.keyed protocol.name existing stored
      have held := upheld.holds existing (NameMap.mem_values.mpr ⟨protocol.name, stored⟩)
      rw [if_neg new, if_neg kept, ← existing_named]
      exact ⟨held.leads alternate old, held.free.unstored alternate old⟩
  refine ⟨?_, ⟨?_, ?_, ?_⟩, ?_, ?_⟩
  · rw [Protocol.fault?_eq_of_sameContract (settled_sameContract accepts)]
    exact accepts.sound
  · rw [named]
    exact (holds_apply accepts).free.unaliased
  · intro alternate member different
    rw [named] at different
    rw [find?_protocols_apply accepts, if_neg different]
    exact (origin alternate member).2 different
  · intro alternate member owner leads
    rw [(origin alternate member).1] at leads
    rw [named]
    exact (Option.some.inj leads).symm
  · refine ⟨_, ?_, Protocol.sameContract_refl _, fun _ => id⟩
    rw [find?_protocols_apply accepts, if_pos named]
  · intro alternate member
    rw [named]
    exact (origin alternate member).1

/-- After an accepted registration every other stored protocol is still held. -/
theorem holds_other (upheld : catalogue.Upheld) (accepts : catalogue.Accepts protocol outcome)
    {other : Protocol} (listed : other ∈ catalogue.list) (different : other.name ≠ protocol.name) :
    (catalogue.apply protocol outcome).Holds other := by
  have held := upheld.holds other listed
  have stored := upheld.keyed.mem_list.mp listed
  -- Neither a new nor a released alias leads to the other protocol.
  have leads (alternate : String) (member : alternate ∈ other.aliases) :
      (catalogue.apply protocol outcome).aliases.find? alternate = some other.name := by
    have led := held.leads alternate member
    rw [find?_aliases_apply accepts, if_neg, if_neg, led]
    · intro gone
      obtain ⟨existing, replaced, old⟩ := mem_released gone
      have existing_held := upheld.holds existing (NameMap.mem_values.mpr ⟨_, replaced⟩)
      rw [existing_held.leads alternate old, upheld.keyed _ existing replaced] at led
      exact different (Option.some.inj led).symm
    · intro new
      exact different (accepts.free.unshared alternate new other.name led)
  refine ⟨held.sound, ⟨?_, ?_, unshared_of_leads leads⟩, ?_, leads⟩
  · intro owner aliased
    rw [find?_aliases_apply accepts] at aliased
    split at aliased
    · rename_i new
      rw [accepts.free.unstored other.name new different] at stored
      cases stored
    · split at aliased
      · cases aliased
      · exact held.free.unaliased owner aliased
  · intro alternate member apart
    rw [find?_protocols_apply accepts, if_neg]
    · exact held.free.unstored alternate member apart
    · rintro rfl
      exact different (accepts.free.unaliased other.name (held.leads protocol.name member))
  · refine ⟨other, ?_, other.sameContract_refl, fun _ => id⟩
    rw [find?_protocols_apply accepts, if_neg different, stored]

/-- Accepted registrations keep every stored protocol held. -/
theorem apply (upheld : catalogue.Upheld) (accepts : catalogue.Accepts protocol outcome) :
    (catalogue.apply protocol outcome).Upheld where
  keyed := upheld.keyed.apply accepts
  holds other listed := by
    have found := (upheld.keyed.apply accepts).mem_list.mp listed
    rw [find?_protocols_apply accepts] at found
    split at found
    · rw [← Option.some.inj found]
      exact upheld.holds_settled accepts
    · rename_i different
      exact upheld.holds_other accepts (upheld.keyed.mem_list.mpr found) different

/-- A given alias keeps every stored protocol held exactly when it is harmless. -/
theorem addAlias_iff (upheld : catalogue.Upheld) {alternate target : String} :
    (catalogue.addAlias alternate target).Upheld ↔ catalogue.Harmless alternate target := by
  have table (name : String) : (catalogue.addAlias alternate target).aliases.find? name =
      if name = alternate then some target else catalogue.aliases.find? name :=
    NameMap.find?_insert ..
  constructor
  · intro after protocol listed answers
    have held := after.holds protocol listed
    rcases Protocol.answersTo_iff.mp answers with rfl | member
    · exact (held.free.unaliased target (by rw [table, if_pos rfl])).symm
    · have leads := held.leads alternate member
      rw [table, if_pos rfl] at leads
      exact (Option.some.inj leads).symm
  · intro harmless
    refine ⟨upheld.keyed, fun protocol listed => ?_⟩
    have held := upheld.holds protocol listed
    have leads (name : String) (member : name ∈ protocol.aliases) :
        (catalogue.addAlias alternate target).aliases.find? name = some protocol.name := by
      rw [table]
      split
      · rename_i given
        rw [harmless protocol listed (Protocol.answersTo_iff.mpr (.inr (given ▸ member)))]
      · exact held.leads name member
    refine ⟨held.sound, ⟨?_, held.free.unstored, unshared_of_leads leads⟩, held.stored, leads⟩
    intro owner aliased
    rw [table] at aliased
    split at aliased
    · rename_i given
      rw [← Option.some.inj aliased]
      exact (harmless protocol listed (Protocol.answersTo_iff.mpr (.inl given))).symm
    · exact held.free.unaliased owner aliased

/-- Harmless aliases that are given in order keep every stored protocol held. -/
theorem insertAll (upheld : catalogue.Upheld) {order : List (String × String)}
    (harmless : ∀ entry ∈ order, catalogue.Harmless entry.1 entry.2) :
    Upheld { catalogue with aliases := catalogue.aliases.insertAll order } := by
  induction order generalizing catalogue with
  | nil => exact upheld
  | cons entry rest ih =>
    obtain ⟨first, others⟩ := List.forall_mem_cons.mp harmless
    exact ih (upheld.addAlias_iff.mpr first) others

/-- A history that adds harmless aliases at most keeps every stored protocol held. -/
theorem through (upheld : catalogue.Upheld) {history : List Event}
    (harmless : catalogue.AddsHarmless history) : (catalogue.through history).Upheld := by
  induction history generalizing catalogue with
  | nil => exact upheld
  | cons event rest ih =>
    obtain ⟨now, later⟩ := harmless
    apply ih _ later
    apply perform_preserves Upheld.apply (fun _ upheld => upheld.of_tables rfl rfl) _ upheld
    exact fun alternate target adds upheld => upheld.addAlias_iff.mpr (now alternate target adds)

end Upheld

/-- Every stored protocol is held in a catalogue as it is made, if the configured aliases are
harmless. -/
theorem Built.upheld {given : NameMap String} (built : Built given catalogue)
    (harmless : ∀ alternate target, given.find? alternate = some target →
      catalogue.Harmless alternate target) : catalogue.Upheld := by
  obtain ⟨base, order, is_base, order_perm, protocols, aliases⟩ := built.tables
  have upheld : base.Upheld := preserves_of_base Upheld.apply .empty is_base
  have entries : ∀ entry ∈ order, base.Harmless entry.1 entry.2 := by
    intro entry member
    have given_entry := NameMap.find?_eq_some_iff.mpr (order_perm.mem_iff.mp member)
    simpa only [Harmless, list, protocols] using harmless entry.1 entry.2 given_entry
  exact (upheld.insertAll entries).of_tables protocols aliases

/-- After any history, registering a stored protocol again changes nothing exactly when the
protocol is held. If one of its names is not free, the protocol is refused for a name that the
table or the stored protocols give to another one; if its names are free, the answer is that
nothing changed, and the table alone gains the aliases of the protocol that it lacks. Both are
consequences of given aliases: as long as none is given that a stored protocol other than its
target answers to, registering a stored protocol again changes nothing. -/
theorem register_listed {given : NameMap String} {start : Catalogue} (built : Built given start)
    (history : List Event) (listed : protocol ∈ (start.through history).list) :
    ((start.through history).register protocol = ⟨.ok .unchanged, start.through history, []⟩ ↔
      (start.through history).Holds protocol) ∧
    (¬(start.through history).Free protocol → ∃ alternate owner,
      (start.through history).register protocol =
          ⟨.error (.aliasTaken alternate owner), start.through history, []⟩ ∧
        protocol.answersTo alternate = true ∧ owner ≠ protocol.name) ∧
    ((start.through history).Free protocol → ∃ table,
      (start.through history).register protocol =
          ⟨.ok .unchanged, { start.through history with aliases := table }, []⟩ ∧
        ∀ alternate, table.find? alternate =
          ((start.through history).aliases.find? alternate).or
            (if alternate ∈ protocol.aliases then some protocol.name else none)) ∧
    ((∀ alternate target, given.find? alternate = some target → start.Harmless alternate target) →
      start.AddsHarmless history →
        (start.through history).register protocol =
          ⟨.ok .unchanged, start.through history, []⟩) := by
  have sound := (built.sound.through history).of_listed listed
  have stored := (built.keyed.through history).mem_list.mp listed
  refine ⟨register_listed_iff sound stored, register_of_not_free sound,
    fun free => register_of_free sound free stored, ?_⟩
  intro configured added
  exact (((built.upheld configured).through added).holds protocol listed).register

/-- An added alias that nothing answers to is taken up by the protocol that it was given to. -/
def adoptingHistory : List Event :=
  let files : FileSystem := { root := .directory true [] }
  [⟨files, .register { name := "Closable", aliases := ["Shut"], methods := [⟨"close", [], .any⟩] }⟩,
    ⟨files, .addAlias "Cover" "Closable"⟩,
    ⟨files, .register { name := "Closable", aliases := ["Cover"]
                        methods := [⟨"close", [], .any⟩] }⟩]

/-- The protocol is registered again without any change as long as the added aliases are harmless,
and refused once an alias that it lists is given to another one. -/
theorem register_listed_adopting :
    let closable : Protocol :=
      { name := "Closable", aliases := ["Shut", "Cover"], methods := [⟨"close", [], .any⟩] }
    let harmful := adoptingHistory ++
      [⟨{ root := .directory true [] }, .addAlias "Shut" "Sized"⟩]
    Built .empty standard ∧ closable ∈ (standard.through adoptingHistory).list ∧
      standard.AddsHarmless adoptingHistory ∧
      (standard.through adoptingHistory).register closable =
        ⟨.ok .unchanged, standard.through adoptingHistory, []⟩ ∧
      closable ∈ (standard.through harmful).list ∧ ¬(standard.through harmful).Free closable ∧
      ∃ alternate owner, (standard.through harmful).register closable =
        ⟨.error (.aliasTaken alternate owner), standard.through harmful, []⟩ := by
  intro closable harmful
  have listed : closable ∈ (standard.through adoptingHistory).list := by decide +kernel
  have harmless : standard.AddsHarmless adoptingHistory := by
    refine ⟨nofun, ?_, nofun, trivial⟩
    rintro alternate target ⟨⟩
    unfold Harmless
    decide +kernel
  have unchanged := (register_listed .standard adoptingHistory listed).2.2.2 nofun harmless
  have still_listed : closable ∈ (standard.through harmful).list := by decide +kernel
  have taken : ¬(standard.through harmful).Free closable := by
    intro free
    have owner := free.unshared "Shut" (by decide) "Sized" (by decide +kernel)
    revert owner
    decide
  obtain ⟨alternate, owner, refused, -⟩ :=
    (register_listed .standard harmful still_listed).2.1 taken
  exact ⟨.standard, listed, harmless, unchanged, still_listed, taken, alternate, owner, refused⟩

/-- The alias of these settings hides behind a canonical name of the standard protocols. -/
def hidingSettings : Settings where
  aliases := .ofList [("Sized", "IntConvertible")]

/-- A listed protocol is refused: its canonical name stands for it, and yet it counts as taken by
the protocol that the hidden alias was given to. -/
theorem listed_protocol_refused :
    let start : Catalogue := { ofSettingsBase hidingSettings with
      aliases := standard.aliases.insertAll hidingSettings.aliases.entries }
    let sized : Protocol :=
      { name := "Sized", aliases := ["SizeQueryable", "SupportsLen"]
        description := "Reports its element count", origin := .standard
        methods := [⟨"size", [], .int⟩] }
    Built hidingSettings.aliases start ∧ sized ∈ start.list ∧
      start.resolve "Sized" = some sized ∧
      (start.register sized).result = .error (.aliasTaken "Sized" "IntConvertible") ∧
      (start.register sized).result ≠ .ok .unchanged := by
  intro start sized
  have built : Built hidingSettings.aliases start :=
    .configured hidingSettings _ (.refl _) (addAliases_eq_ok_iff.mpr ⟨by decide +kernel, rfl⟩)
  have refused : (start.register sized).result =
      .error (.aliasTaken "Sized" "IntConvertible") := eq_error_of_refusal? (by decide +kernel)
  refine ⟨built, by decide +kernel, by decide +kernel, refused, ?_⟩
  rw [refused]
  nofun

end Covenant.Catalogue
