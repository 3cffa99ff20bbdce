import Covenant.Proofs.Catalogue.AliasIndex

/-!
# Catalogues without a table

A ledger stores protocols and nothing else: whether a name is taken is found by asking every stored
protocol. A catalogue decides the same from its table and its map.
`Catalogue.registrations_eq_ledger` says that no run of registrations tells the two apart: outcomes
and errors agree at every step, and so do the listed protocols.
-/
namespace Covenant

/-- Stored protocols, in order of their first registration, without a table of aliases. -/
structure Ledger where
  /-- The protocols. -/
  stored : List Protocol
  /-- Whether a different protocol of the same name replaces the one before it. -/
  allowRedeclaration : Bool

namespace Ledger

/-- The ledger of the protocols of a catalogue. -/
def ofCatalogue (catalogue : Catalogue) : Ledger :=
  ⟨catalogue.list, catalogue.allowRedeclaration⟩

/-- The stored protocols in ascending order of their names. -/
def list (ledger : Ledger) : List Protocol := ledger.stored.mergeSort fun left right =>
  left.name ≤ right.name

/-- The canonical name of a stored protocol that answers to a name, other than a given one. -/
def owner? (ledger : Ledger) (protocol : Protocol) (name : String) : Option String :=
  let other? := ledger.stored.find? fun other =>
    other.name != protocol.name && other.answersTo name
  other?.map (·.name)

/-- The first name of a protocol that a stored protocol of another name answers to, the canonical
name before the aliases, and the canonical name of that protocol. -/
def taken? (ledger : Ledger) (protocol : Protocol) : Option (String × String) :=
  (protocol.name :: protocol.aliases).findSome? fun name =>
    (ledger.owner? protocol name).map (name, ·)

/-- What registering a protocol would do. -/
def outcome (ledger : Ledger) (protocol : Protocol) : Except CatalogueError Outcome :=
  match protocol.fault?, ledger.taken? protocol with
  | some fault, _ => .error (.invalid (.protocol fault))
  | none, some (name, owner) => .error (.aliasTaken name owner)
  | none, none =>
    match ledger.stored.find? (·.name == protocol.name) with
    | none => .ok .added
    | some existing =>
      if existing.sameContract protocol then .ok .unchanged
      else if ledger.allowRedeclaration then .ok .replaced
      else .error (.conflict protocol.name)

/-- Change the stored protocols of a name. -/
def amend (ledger : Ledger) (name : String) (change : Protocol → Protocol) : Ledger :=
  { ledger with
    stored := ledger.stored.map fun other => if other.name = name then change other else other }

/-- The aliases of a protocol that another one does not hold, in order and each once. -/
def newAliases (existing protocol : Protocol) : List String :=
  (protocol.aliases.filter (!existing.aliases.contains ·)).eraseDups

/-- The ledger after registering a protocol with an outcome. -/
def keep (ledger : Ledger) (protocol : Protocol) : Outcome → Ledger
  | .added => { ledger with stored := ledger.stored ++ [protocol] }
  | .unchanged => ledger.amend protocol.name fun existing =>
    { existing with aliases := existing.aliases ++ newAliases existing protocol }
  | .replaced => ledger.amend protocol.name fun _ => protocol

/-- Register a protocol: the answer, and the ledger afterwards. -/
def register (ledger : Ledger) (protocol : Protocol) : Except CatalogueError Outcome × Ledger :=
  match ledger.outcome protocol with
  | .ok outcome => (.ok outcome, ledger.keep protocol outcome)
  | .error error => (.error error, ledger)

/-- The answers to registrations in order, each with the protocols listed after it. -/
def registrations (ledger : Ledger) :
    List Protocol → List (Except CatalogueError Outcome × List Protocol)
  | [] => []
  | protocol :: rest =>
    let (answer, next) := ledger.register protocol
    (answer, next.list) :: next.registrations rest

end Ledger

/-- The answers to registrations in order, each with the protocols listed after it. -/
def Catalogue.registrations (catalogue : Catalogue) :
    List Protocol → List (Except CatalogueError Outcome × List Protocol)
  | [] => []
  | protocol :: rest =>
    let effect := catalogue.register protocol
    (effect.result, effect.catalogue.list) :: effect.catalogue.registrations rest

namespace Catalogue

/-- While the table is in step, a name is kept from being an alias by the protocol that it stands
for. -/
theorem Indexed.ownerOfAlias?_eq {catalogue : Catalogue} (indexed : catalogue.Indexed)
    (protocol name : String) : catalogue.ownerOfAlias? protocol name =
      ((catalogue.resolve name).map (·.name)).filter (· ≠ protocol) := by
  unfold ownerOfAlias?
  cases canonical : catalogue.protocols.find? name with
  | some stored =>
    have named := indexed.keyed name stored canonical
    rw [resolve_of_stored canonical, Option.map_some, named]
    by_cases own : name = protocol
    · -- In the table a canonical name leads to itself alone, which is no other protocol.
      have no_other : (catalogue.aliases.find? name).filter (· ≠ protocol) = none := by
        rw [Option.filter_eq_none_iff]
        intro target leads
        simp [← indexed.apart name target stored leads canonical, own]
      rw [if_neg (by simp [own]), no_other, Option.filter_some, if_neg (by simp [own])]
    · rw [if_pos (by simp [own, NameMap.contains, canonical]), Option.filter_some,
        if_pos (by simp [own])]
  | none =>
    rw [resolve_of_absent canonical]
    have absent : ¬(name ≠ protocol ∧ catalogue.protocols.contains name = true) := by
      simp [NameMap.contains, canonical]
    rw [if_neg absent]
    cases leads : catalogue.aliases.find? name with
    | none => rfl
    | some target =>
      obtain ⟨owner, stored, _⟩ := (indexed.listed name target).mp leads
      rw [Option.bind_some, stored, Option.map_some, indexed.keyed target owner stored]

end Catalogue

namespace Ledger

open Catalogue

/-- A ledger stores the protocols of a catalogue whose table is in step, each name once. -/
structure Represents (ledger : Ledger) (catalogue : Catalogue) : Prop where
  /-- The table of the catalogue is in step. -/
  indexed : catalogue.Indexed
  /-- The same protocols are stored. -/
  stored : ∀ protocol, protocol ∈ ledger.stored ↔ protocol ∈ catalogue.list
  /-- No name is stored twice. -/
  distinct : (ledger.stored.map (·.name)).Nodup
  /-- The mode is the same. -/
  mode : ledger.allowRedeclaration = catalogue.allowRedeclaration

namespace Represents

variable {ledger : Ledger} {catalogue : Catalogue} {protocol : Protocol} {outcome : Outcome}

/-- Looking a canonical name up among the stored protocols is looking it up in the map. -/
theorem find?_stored (represents : ledger.Represents catalogue) (name : String) :
    ledger.stored.find? (·.name == name) = catalogue.protocols.find? name := by
  have keyed := represents.indexed.keyed
  cases scanned : ledger.stored.find? (·.name == name) with
  | some found =>
    have named : found.name = name := by simpa using List.find?_some scanned
    have listed := (represents.stored found).mp (List.mem_of_find?_eq_some scanned)
    rw [← named, keyed.mem_list.mp listed]
  | none =>
    cases looked : catalogue.protocols.find? name with
    | none => rfl
    | some found =>
      have listed : found ∈ catalogue.list := NameMap.mem_values.mpr ⟨name, looked⟩
      have missed := List.find?_eq_none.mp scanned found ((represents.stored found).mpr listed)
      simp [keyed name found looked] at missed

/-- Asking every stored protocol whether it answers to a name is looking the name up. -/
theorem owner?_eq (represents : ledger.Represents catalogue) (protocol : Protocol)
    (name : String) : ledger.owner? protocol name =
      ((catalogue.resolve name).map (·.name)).filter (· ≠ protocol.name) := by
  have answers (found : Protocol) : catalogue.resolve name = some found ↔
      found ∈ catalogue.list ∧ found.answersTo name = true :=
    represents.indexed.resolve_eq_some_iff
  unfold owner?
  cases scanned : ledger.stored.find? fun other =>
      other.name != protocol.name && other.answersTo name with
  | some found =>
    have passes := List.find?_some scanned
    simp only [Bool.and_eq_true, bne_iff_ne] at passes
    have listed := (represents.stored found).mp (List.mem_of_find?_eq_some scanned)
    rw [(answers found).mpr ⟨listed, passes.2⟩]
    rw [Option.map_some, Option.filter_some, if_pos (by simp [passes.1])]
  | none =>
    cases looked : catalogue.resolve name with
    | none => rfl
    | some found =>
      obtain ⟨listed, answering⟩ := (answers found).mp looked
      have missed := List.find?_eq_none.mp scanned found ((represents.stored found).mpr listed)
      simp only [answering, Bool.and_true, bne_iff_ne, ne_eq, Decidable.not_not] at missed
      rw [Option.map_some, Option.filter_some, if_neg (by simp [missed])]
      rfl

/-- A ledger decides what a registration would do as the catalogue does. -/
theorem outcome_eq (represents : ledger.Represents catalogue) (protocol : Protocol) :
    ledger.outcome protocol = catalogue.outcome protocol := by
  have taken : ledger.taken? protocol = catalogue.takenName? protocol := by
    rw [takenName?_eq]
    unfold taken?
    simp only [represents.owner?_eq, represents.indexed.ownerOfAlias?_eq]
  unfold outcome Catalogue.outcome
  rw [taken, represents.find?_stored, represents.mode]
  cases protocol.fault? with
  | some fault => rfl
  | none => cases catalogue.takenName? protocol <;> rfl

/-- Changing the stored protocol of a name without renaming it leaves the changed one in its place
and all others. -/
theorem mem_amend (represents : ledger.Represents catalogue) {existing other : Protocol}
    {name : String} {change : Protocol → Protocol}
    (stored : catalogue.protocols.find? name = some existing)
    (renames : (change existing).name = name) :
    other ∈ (ledger.amend name change).stored ↔
      if other.name = name then other = change existing else other ∈ ledger.stored := by
  have keyed := represents.indexed.keyed
  have unique : ∀ found ∈ ledger.stored, found.name = name → found = existing := by
    intro found member named
    have looked := keyed.mem_list.mp ((represents.stored found).mp member)
    rw [named, stored] at looked
    exact (Option.some.inj looked).symm
  have member : existing ∈ ledger.stored :=
    (represents.stored existing).mpr (NameMap.mem_values.mpr ⟨name, stored⟩)
  have named := keyed name existing stored
  simp only [amend, List.mem_map]
  constructor
  · rintro ⟨found, found_member, rfl⟩
    by_cases same : found.name = name
    · rw [if_pos same, unique found found_member same, if_pos renames]
    · rw [if_neg same, if_neg same]
      exact found_member
  · intro kept
    split at kept
    · exact ⟨existing, member, by rw [if_pos named, kept]⟩
    · rename_i different
      exact ⟨other, kept, if_neg different⟩

/-- Changing stored protocols of a name without renaming them leaves the names as they are. -/
theorem names_amend {name : String} {change : Protocol → Protocol}
    (renames : ∀ existing, existing.name = name → (change existing).name = name) :
    (ledger.amend name change).stored.map (·.name) = ledger.stored.map (·.name) := by
  rw [amend, List.map_map]
  apply List.map_congr_left
  intro existing _
  by_cases same : existing.name = name
  · simp [same, renames existing same]
  · simp [same]

/-- Registering leaves in a ledger what the registration settles to, and the protocols of other
names. -/
theorem mem_keep (represents : ledger.Represents catalogue)
    (accepts : catalogue.Accepts protocol outcome) (other : Protocol) :
    other ∈ (ledger.keep protocol outcome).stored ↔
      if other.name = protocol.name then other = catalogue.settled protocol outcome
      else other ∈ ledger.stored := by
  cases accepts.settles with
  | added fresh =>
    simp only [keep, settled, List.mem_append, List.mem_singleton]
    constructor
    · rintro (member | rfl)
      · have listed := (represents.stored other).mp member
        have different : other.name ≠ protocol.name := by
          intro same
          have looked := represents.indexed.keyed.mem_list.mp listed
          rw [same, fresh] at looked
          cases looked
        rwa [if_neg different]
      · rw [if_pos rfl]
    · intro kept
      split at kept
      · exact .inr kept
      · exact .inl kept
  | unchanged existing stored same =>
    simp only [settled, stored, appendNew_eq]
    exact represents.mem_amend stored (by exact (Protocol.sameContract_iff.mp same).1)
  | replaced existing stored different allowed =>
    exact represents.mem_amend stored rfl

/-- An accepted registration leaves a ledger that represents the catalogue. -/
theorem keep (represents : ledger.Represents catalogue)
    (accepts : catalogue.Accepts protocol outcome) :
    (ledger.keep protocol outcome).Represents (catalogue.apply protocol outcome) where
  indexed := represents.indexed.apply accepts
  stored other := by
    rw [represents.mem_keep accepts, (represents.indexed.keyed.apply accepts).mem_list,
      find?_protocols_apply accepts]
    split
    · rw [Option.some.injEq, eq_comm]
    · rw [represents.stored, represents.indexed.keyed.mem_list]
  distinct := by
    cases accepts.settles with
    | added fresh =>
      have absent : protocol.name ∉ ledger.stored.map (·.name) := by
        intro member
        obtain ⟨other, other_member, same⟩ := List.mem_map.mp member
        have listed := (represents.stored other).mp other_member
        have looked := represents.indexed.keyed.mem_list.mp listed
        rw [same, fresh] at looked
        cases looked
      simp only [Ledger.keep, List.map_append, List.map_cons, List.map_nil]
      exact List.nodup_append.mpr ⟨represents.distinct, by simp, by simpa using absent⟩
    | unchanged existing stored same =>
      unfold Ledger.keep
      rw [names_amend]
      · exact represents.distinct
      · exact fun _ same => same
    | replaced existing stored different allowed =>
      unfold Ledger.keep
      rw [names_amend]
      · exact represents.distinct
      · exact fun _ _ => rfl
  mode := by
    rw [allowRedeclaration_apply, ← represents.mode]
    cases outcome <;> rfl

/-- A ledger lists what the catalogue lists. -/
theorem list_eq (represents : ledger.Represents catalogue) : ledger.list = catalogue.list := by
  -- Both lists hold the same protocols and ascend by name, and no two protocols share a name.
  have ascending := represents.indexed.keyed.list_ascending
  have members : ledger.list.Perm catalogue.list := by
    refine (List.mergeSort_perm _ _).trans ?_
    refine (List.perm_ext_iff_of_nodup ?_ ?_).mpr represents.stored
    · exact List.Pairwise.of_map _ (fun _ _ different same => different (congrArg _ same))
        represents.distinct
    · exact ascending.imp fun below same => String.ne_of_lt below (congrArg _ same)
  have sorted : ledger.list.Pairwise fun left right => decide (left.name ≤ right.name) = true := by
    apply List.pairwise_mergeSort
    · intro first second third
      simpa using String.le_trans
    · intro left right
      simpa using String.le_total left.name right.name
  have ascending_or_equal : catalogue.list.Pairwise fun left right =>
      decide (left.name ≤ right.name) = true :=
    ascending.imp fun below => decide_eq_true (String.not_lt.mp (String.lt_asymm below))
  refine members.eq_of_pairwise ?_ sorted ascending_or_equal
  intro left right left_listed right_listed below above
  have same := String.le_antisymm (of_decide_eq_true below) (of_decide_eq_true above)
  have left_stored := represents.indexed.keyed.mem_list.mp (members.mem_iff.mp left_listed)
  have right_stored := represents.indexed.keyed.mem_list.mp right_listed
  rw [same, right_stored] at left_stored
  exact (Option.some.inj left_stored).symm

/-- A registration gets the same answer from both, and a ledger that represented the catalogue
before represents it afterwards. -/
theorem register (represents : ledger.Represents catalogue) (protocol : Protocol) :
    (ledger.register protocol).1 = (catalogue.register protocol).result ∧
      (ledger.register protocol).2.Represents (catalogue.register protocol).catalogue := by
  unfold Ledger.register
  rw [represents.outcome_eq]
  cases decided : catalogue.outcome protocol with
  | error error =>
    rw [register_of_error decided]
    exact ⟨rfl, represents⟩
  | ok outcome =>
    have accepts := outcome_eq_ok_iff.mp decided
    rw [register_of_accepts accepts]
    exact ⟨rfl, represents.keep accepts⟩

/-- No run of registrations tells a ledger from the catalogue that it represents. -/
theorem registrations_eq (represents : ledger.Represents catalogue) (protocols : List Protocol) :
    catalogue.registrations protocols = ledger.registrations protocols := by
  induction protocols generalizing ledger catalogue with
  | nil => rfl
  | cons protocol rest ih =>
    obtain ⟨answer, next⟩ := represents.register protocol
    simp only [Catalogue.registrations, Ledger.registrations]
    rw [← answer, ← next.list_eq, ih next]

end Represents

/-- The ledger of the protocols of a catalogue whose table is in step represents it. -/
theorem represents_ofCatalogue {catalogue : Catalogue} (indexed : catalogue.Indexed) :
    (ofCatalogue catalogue).Represents catalogue where
  indexed := indexed
  stored _ := Iff.rfl
  distinct := List.pairwise_map.mpr (indexed.keyed.list_ascending.imp String.ne_of_lt)
  mode := rfl

end Ledger

/-- A catalogue made without configured aliases and the ledger of its protocols list the same
protocols, and give the same answers to every sequence of registrations, with the same protocols
listed after each. -/
theorem Catalogue.registrations_eq_ledger {start : Catalogue} (built : Built .empty start)
    (protocols : List Protocol) :
    start.list = (Ledger.ofCatalogue start).list ∧
      start.registrations protocols = (Ledger.ofCatalogue start).registrations protocols := by
  have represents := Ledger.represents_ofCatalogue (built.indexed rfl)
  exact ⟨represents.list_eq.symm, represents.registrations_eq protocols⟩

/-- Both refuse a protocol for an alias of another one, accept one that lists its own name, learn
its new alias, and refuse another contract of a standard name. -/
theorem Catalogue.registrations_eq_ledger_standard :
    let closable : Protocol :=
      { name := "Closable", aliases := ["SupportsClose", "Closable"]
        methods := [⟨"close", [], .bool⟩] }
    let protocols : List Protocol := [
      { name := "Indexable", aliases := ["SupportsInt"], methods := [⟨"index", [], .int⟩] },
      closable,
      { closable with aliases := ["Shuttable", "SupportsClose"] },
      { name := "Sized", methods := [⟨"size", ["unit"], .int⟩] }]
    Built .empty .standard ∧
      standard.registrations protocols = (Ledger.ofCatalogue standard).registrations protocols ∧
      ((Ledger.ofCatalogue standard).registrations protocols).map (·.1.toBool) =
        [false, true, true, false] := by
  intro closable protocols
  refine ⟨.standard, (registrations_eq_ledger .standard protocols).2, ?_⟩
  decide +kernel

end Covenant
