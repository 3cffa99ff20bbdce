import Covenant.Catalogue.Register
import Covenant.Proofs.NameMap

/-!
# What registering a protocol does

A registration is accepted when the protocol is well formed, none of its names belongs to another
protocol, and what is stored under its name settles the outcome (`Catalogue.outcome_eq_ok_iff`).
An accepted registration is then described by two look-ups, one in the stored protocols
(`Catalogue.find?_protocols_apply`) and one in the table of aliases
(`Catalogue.find?_aliases_apply`), alike for every outcome. Results about catalogues follow from
these, and not from the steps that a registration takes.
-/
namespace Covenant

namespace Protocol

/-- Two protocols are one contract when name, origin and methods agree. -/
theorem sameContract_iff {left right : Protocol} : left.sameContract right = true ↔
    left.name = right.name ∧ left.origin = right.origin ∧ left.methods = right.methods := by
  simp [sameContract, and_assoc]

/-- A protocol is one contract with itself. -/
theorem sameContract_refl (protocol : Protocol) : protocol.sameContract protocol = true :=
  sameContract_iff.mpr ⟨rfl, rfl, rfl⟩

/-- Being one contract does not depend on which protocol comes first. -/
theorem sameContract_symm {left right : Protocol} (same : left.sameContract right = true) :
    right.sameContract left = true := by
  obtain ⟨name, origin, methods⟩ := sameContract_iff.mp same
  exact sameContract_iff.mpr ⟨name.symm, origin.symm, methods.symm⟩

/-- Two protocols that are one contract with a third are one contract. -/
theorem sameContract_trans {left middle right : Protocol}
    (first : left.sameContract middle = true) (second : middle.sameContract right = true) :
    left.sameContract right = true := by
  obtain ⟨name, origin, methods⟩ := sameContract_iff.mp first
  obtain ⟨name', origin', methods'⟩ := sameContract_iff.mp second
  exact sameContract_iff.mpr ⟨name.trans name', origin.trans origin', methods.trans methods'⟩

/-- Whether a protocol is well formed is a matter of its contract. -/
theorem fault?_eq_of_sameContract {left right : Protocol}
    (same : left.sameContract right = true) : left.fault? = right.fault? := by
  obtain ⟨name, _, methods⟩ := sameContract_iff.mp same
  unfold fault?
  rw [name, methods]

/-- A protocol answers to its canonical name and to its aliases. -/
theorem answersTo_iff {protocol : Protocol} {name : String} :
    protocol.answersTo name = true ↔ protocol.name = name ∨ name ∈ protocol.aliases := by
  simp [answersTo]

end Protocol

namespace Catalogue

/-! ## Merged alias lists -/

/-- Names are appended in order, each name that is not there yet once. -/
theorem appendNew_eq (names more : List String) :
    appendNew names more = names ++ (more.filter (!names.contains ·)).eraseDups := by
  induction more generalizing names with
  | nil => simp [appendNew]
  | cons name rest ih =>
    unfold appendNew
    by_cases known : name ∈ names
    · rw [if_pos (List.contains_iff_mem.mpr known), ih, List.filter_cons_of_neg (by simp [known])]
    · rw [if_neg (by simp [known]), ih, List.filter_cons_of_pos (by simp [known]),
        List.eraseDups_cons, List.filter_filter, List.append_assoc, List.singleton_append]
      congr 3
      apply List.filter_congr
      intro other _
      by_cases same : other = name <;> simp [same]

/-- Exactly the names of both lists are in the merged list. -/
theorem mem_appendNew {names more : List String} {name : String} :
    name ∈ appendNew names more ↔ name ∈ names ∨ name ∈ more := by
  rw [appendNew_eq, List.mem_append, List.mem_eraseDups, List.mem_filter]
  by_cases known : name ∈ names <;> simp [known]

/-- Merging only appends. -/
theorem prefix_appendNew (names more : List String) : names <+: appendNew names more := by
  rw [appendNew_eq]
  exact List.prefix_append _ _

/-- Merging names that are there already changes nothing. -/
theorem appendNew_of_subset {names more : List String} (known : more ⊆ names) :
    appendNew names more = names := by
  have nothing : more.filter (!names.contains ·) = [] := by
    apply List.filter_eq_nil_iff.mpr
    intro name member
    simp [known member]
  rw [appendNew_eq, nothing, List.eraseDups_nil, List.append_nil]

/-! ## When a registration is accepted -/

/-- None of the names of a protocol belongs to another one. -/
structure Free (catalogue : Catalogue) (protocol : Protocol) : Prop where
  /-- The canonical name is no alias of another protocol. -/
  unaliased : ∀ owner, catalogue.aliases.find? protocol.name = some owner → owner = protocol.name
  /-- An alias is no canonical name of another protocol. -/
  unstored : ∀ alternate ∈ protocol.aliases, alternate ≠ protocol.name →
    catalogue.protocols.find? alternate = none
  /-- An alias is no alias of another protocol. -/
  unshared : ∀ alternate ∈ protocol.aliases, ∀ owner,
    catalogue.aliases.find? alternate = some owner → owner = protocol.name

/-- What is stored under the name of a protocol leads to an outcome. -/
inductive Settles (catalogue : Catalogue) (protocol : Protocol) : Outcome → Prop
  /-- Nothing is stored there. -/
  | added (fresh : catalogue.protocols.find? protocol.name = none) :
    Settles catalogue protocol .added
  /-- The same contract is stored there. -/
  | unchanged (existing : Protocol)
    (stored : catalogue.protocols.find? protocol.name = some existing)
    (same : existing.sameContract protocol = true) : Settles catalogue protocol .unchanged
  /-- Another contract is stored there and may be replaced. -/
  | replaced (existing : Protocol)
    (stored : catalogue.protocols.find? protocol.name = some existing)
    (other : existing.sameContract protocol = false)
    (allowed : catalogue.allowRedeclaration = true) : Settles catalogue protocol .replaced

/-- A protocol is registered with an outcome. -/
structure Accepts (catalogue : Catalogue) (protocol : Protocol) (outcome : Outcome) : Prop where
  /-- The protocol is well formed. -/
  sound : protocol.fault? = none
  /-- Its names are free. -/
  free : catalogue.Free protocol
  /-- The outcome is the one of what is stored. -/
  settles : catalogue.Settles protocol outcome

variable {catalogue : Catalogue} {protocol : Protocol} {outcome : Outcome}

/-- No owner keeps a name from being an alias when it is neither a canonical name nor an alias of
another protocol. -/
theorem ownerOfAlias?_eq_none {name alternate : String} :
    catalogue.ownerOfAlias? name alternate = none ↔
      (alternate ≠ name → catalogue.protocols.find? alternate = none) ∧
        ∀ owner, catalogue.aliases.find? alternate = some owner → owner = name := by
  unfold ownerOfAlias?
  split
  · rename_i shadows
    obtain ⟨stored, found⟩ := NameMap.contains_eq_true.mp shadows.2
    simp [shadows.1, found]
  · rename_i clear
    have absent : alternate ≠ name → catalogue.protocols.find? alternate = none := by
      intro different
      simpa [different, NameMap.contains] using clear
    simpa [Option.filter_eq_none_iff] using fun _ => absent

/-- The taken name of a protocol is the first of its names that has an owner, the canonical name
before the aliases. -/
theorem takenName?_eq : catalogue.takenName? protocol =
    (protocol.name :: protocol.aliases).findSome? fun name =>
      (catalogue.ownerOfAlias? protocol.name name).map (name, ·) := by
  have first : catalogue.ownerOfAlias? protocol.name protocol.name =
      (catalogue.aliases.find? protocol.name).filter (· ≠ protocol.name) := by
    simp [ownerOfAlias?]
  rw [List.findSome?_cons, first]
  unfold takenName?
  cases (catalogue.aliases.find? protocol.name).filter (· ≠ protocol.name) <;> rfl

/-- No name is taken exactly when all names are free. -/
theorem takenName?_eq_none : catalogue.takenName? protocol = none ↔ catalogue.Free protocol := by
  simp only [takenName?_eq, List.findSome?_eq_none_iff, List.forall_mem_cons,
    Option.map_eq_none_iff, ownerOfAlias?_eq_none]
  constructor
  · rintro ⟨⟨-, unaliased⟩, others⟩
    exact ⟨unaliased, fun alternate member => (others alternate member).1,
      fun alternate member => (others alternate member).2⟩
  · intro free
    refine ⟨⟨fun different => absurd rfl different, free.unaliased⟩, ?_⟩
    exact fun alternate member => ⟨free.unstored alternate member, free.unshared alternate member⟩

/-- A registration is accepted with an outcome exactly when the protocol is well formed, its names
are free, and the outcome is the one of what is stored. -/
theorem outcome_eq_ok_iff :
    catalogue.outcome protocol = .ok outcome ↔ catalogue.Accepts protocol outcome := by
  constructor
  · intro accepted
    unfold Catalogue.outcome at accepted
    split at accepted
    · cases accepted
    · rename_i sound
      split at accepted
      · cases accepted
      · rename_i clear
        have free := takenName?_eq_none.mp clear
        split at accepted
        · rename_i fresh
          cases accepted
          exact ⟨sound, free, .added fresh⟩
        · rename_i existing stored
          split at accepted
          · rename_i same
            cases accepted
            exact ⟨sound, free, .unchanged existing stored same⟩
          · rename_i other
            split at accepted
            · rename_i allowed
              cases accepted
              exact ⟨sound, free, .replaced existing stored (by simpa using other) allowed⟩
            · cases accepted
  · rintro ⟨sound, free, settles⟩
    unfold Catalogue.outcome
    rw [sound, takenName?_eq_none.mpr free]
    cases settles with
    | added fresh => simp [fresh]
    | unchanged existing stored same => simp [stored, same]
    | replaced existing stored other allowed => simp [stored, other, allowed]

/-! ## What an accepted registration leaves -/

/-- What is stored under the name of a protocol once it is registered: the protocol itself, or the
one that was there with the aliases of both. -/
def settled (catalogue : Catalogue) (protocol : Protocol) : Outcome → Protocol
  | .added | .replaced => protocol
  | .unchanged =>
    match catalogue.protocols.find? protocol.name with
    | some existing => { existing with aliases := appendNew existing.aliases protocol.aliases }
    | none => protocol

/-- The aliases that are taken away before a protocol is stored: those of the one it replaces. -/
def released (catalogue : Catalogue) (protocol : Protocol) : Outcome → List String
  | .added | .unchanged => []
  | .replaced =>
    match catalogue.protocols.find? protocol.name with
    | some existing => existing.aliases
    | none => []

/-- A stored protocol is found under its name. -/
theorem find?_protocols_store (name : String) : (catalogue.store protocol).protocols.find? name =
    if name = protocol.name then some protocol else catalogue.protocols.find? name :=
  NameMap.find?_insert ..

/-- The aliases of a stored protocol are in the table. -/
theorem find?_aliases_store (alternate : String) :
    (catalogue.store protocol).aliases.find? alternate =
      if alternate ∈ protocol.aliases then some protocol.name
      else catalogue.aliases.find? alternate :=
  NameMap.find?_insertAll_const ..

/-- Dropping aliases leaves the stored protocols alone. -/
theorem protocols_dropAliases (name : String) :
    (catalogue.dropAliases name).protocols = catalogue.protocols := by
  unfold dropAliases
  split <;> rfl

/-- Dropped aliases are not in the table. -/
theorem find?_aliases_dropAliases {name : String} {old : Protocol}
    (stored : catalogue.protocols.find? name = some old) (alternate : String) :
    (catalogue.dropAliases name).aliases.find? alternate =
      if alternate ∈ old.aliases then none else catalogue.aliases.find? alternate := by
  unfold dropAliases
  rw [stored]
  exact NameMap.find?_foldl_erase ..

/-- Nothing is dropped for a name that stands for nothing. -/
theorem dropAliases_of_fresh {name : String} (fresh : catalogue.protocols.find? name = none) :
    catalogue.dropAliases name = catalogue := by
  unfold dropAliases
  rw [fresh]

/-- Learnt aliases are appended to the stored protocol. -/
theorem find?_protocols_learnAliases {existing : Protocol}
    (stored : catalogue.protocols.find? protocol.name = some existing) (name : String) :
    (catalogue.learnAliases protocol).protocols.find? name =
      if name = protocol.name then
        some { existing with aliases := appendNew existing.aliases protocol.aliases }
      else catalogue.protocols.find? name := by
  simp only [learnAliases, stored]
  exact NameMap.find?_insert ..

/-- Learnt aliases are in the table unless they were there. -/
theorem find?_aliases_learnAliases (alternate : String) :
    (catalogue.learnAliases protocol).aliases.find? alternate =
      (catalogue.aliases.find? alternate).or
        (if alternate ∈ protocol.aliases then some protocol.name else none) :=
  NameMap.find?_foldl_insertNew ..

/-- After a registration the name of the protocol stands for what it settles to, and every other
canonical name for what it stood for. -/
theorem find?_protocols_apply (accepts : catalogue.Accepts protocol outcome) (name : String) :
    (catalogue.apply protocol outcome).protocols.find? name =
      if name = protocol.name then some (catalogue.settled protocol outcome)
      else catalogue.protocols.find? name := by
  cases accepts.settles with
  | added fresh =>
    simp only [apply, dropAliases_of_fresh fresh]
    exact find?_protocols_store name
  | unchanged existing stored same =>
    simp only [apply, find?_protocols_learnAliases stored, settled, stored]
  | replaced existing stored other allowed =>
    simp only [apply, find?_protocols_store, protocols_dropAliases, settled]

/-- After a registration the aliases of the protocol lead to its name, those that were released
lead nowhere, and every other alias leads where it led. -/
theorem find?_aliases_apply (accepts : catalogue.Accepts protocol outcome) (alternate : String) :
    (catalogue.apply protocol outcome).aliases.find? alternate =
      if alternate ∈ protocol.aliases then some protocol.name
      else if alternate ∈ catalogue.released protocol outcome then none
      else catalogue.aliases.find? alternate := by
  cases accepts.settles with
  | added fresh =>
    simp only [apply, dropAliases_of_fresh fresh, find?_aliases_store, released, List.not_mem_nil,
      ↓reduceIte]
  | unchanged existing stored same =>
    simp only [apply, find?_aliases_learnAliases, released, List.not_mem_nil, ↓reduceIte]
    by_cases member : alternate ∈ protocol.aliases
    · rw [if_pos member, if_pos member]
      cases found : catalogue.aliases.find? alternate with
      | none => rfl
      | some owner => rw [accepts.free.unshared alternate member owner found, Option.some_or]
    · rw [if_neg member, if_neg member, Option.or_none]
  | replaced existing stored other allowed =>
    simp only [apply, find?_aliases_store, find?_aliases_dropAliases stored, released, stored]

/-- Registering keeps the mode. -/
@[simp]
theorem allowRedeclaration_apply : (catalogue.apply protocol outcome).allowRedeclaration =
    catalogue.allowRedeclaration := by
  cases outcome <;> simp only [apply, learnAliases, store, dropAliases] <;> split <;> rfl

/-- Registering keeps the search paths. -/
@[simp]
theorem searchPaths_apply :
    (catalogue.apply protocol outcome).searchPaths = catalogue.searchPaths := by
  cases outcome <;> simp only [apply, learnAliases, store, dropAliases] <;> split <;> rfl

/-- What a registration settles to is the contract of the protocol. -/
theorem settled_sameContract (accepts : catalogue.Accepts protocol outcome) :
    (catalogue.settled protocol outcome).sameContract protocol = true := by
  cases accepts.settles with
  | added fresh => exact protocol.sameContract_refl
  | unchanged existing stored same =>
    simp only [settled, stored]
    exact same
  | replaced existing stored other allowed => exact protocol.sameContract_refl

/-- What a registration settles to has the name of the protocol. -/
theorem settled_name (accepts : catalogue.Accepts protocol outcome) :
    (catalogue.settled protocol outcome).name = protocol.name :=
  (Protocol.sameContract_iff.mp (settled_sameContract accepts)).1

/-- What a registration settles to answers to the aliases of the protocol and to those of the one
before it that were not released. -/
theorem mem_aliases_settled (accepts : catalogue.Accepts protocol outcome) {alternate : String} :
    alternate ∈ (catalogue.settled protocol outcome).aliases ↔
      alternate ∈ protocol.aliases ∨ (alternate ∉ catalogue.released protocol outcome ∧
        ∃ existing, catalogue.protocols.find? protocol.name = some existing ∧
          alternate ∈ existing.aliases) := by
  cases accepts.settles with
  | added fresh => simp [settled, fresh]
  | unchanged existing stored same =>
    simp [settled, released, stored, mem_appendNew, or_comm]
  | replaced existing stored other allowed => simp [settled, released, stored]

/-- Released aliases are aliases of the protocol that is replaced. -/
theorem mem_released {alternate : String}
    (released : alternate ∈ catalogue.released protocol outcome) :
    ∃ existing, catalogue.protocols.find? protocol.name = some existing ∧
      alternate ∈ existing.aliases := by
  unfold Catalogue.released at released
  split at released
  · cases released
  · cases released
  · split at released
    · rename_i existing stored
      exact ⟨existing, stored, released⟩
    · cases released

/-! ## Stored names -/

/-- Every protocol is stored under its own name. -/
def Keyed (catalogue : Catalogue) : Prop :=
  ∀ name stored, catalogue.protocols.find? name = some stored → stored.name = name

/-- Registering stores a protocol under its own name. -/
theorem Keyed.apply (keyed : catalogue.Keyed) (accepts : catalogue.Accepts protocol outcome) :
    (catalogue.apply protocol outcome).Keyed := by
  intro name stored found
  rw [find?_protocols_apply accepts] at found
  split at found
  · rename_i same
    rw [← Option.some.inj found, settled_name accepts, same]
  · exact keyed name stored found

/-- Every stored protocol is well formed. -/
def Sound (catalogue : Catalogue) : Prop :=
  ∀ name stored, catalogue.protocols.find? name = some stored → stored.fault? = none

/-- Registering stores a well-formed protocol. -/
theorem Sound.apply (sound : catalogue.Sound) (accepts : catalogue.Accepts protocol outcome) :
    (catalogue.apply protocol outcome).Sound := by
  intro name stored found
  rw [find?_protocols_apply accepts] at found
  split at found
  · have same := settled_sameContract accepts
    rw [Option.some.inj found] at same
    exact (Protocol.fault?_eq_of_sameContract same).trans accepts.sound
  · exact sound name stored found

/-- A listed protocol is well formed. -/
theorem Sound.of_listed (sound : catalogue.Sound) (listed : protocol ∈ catalogue.list) :
    protocol.fault? = none := by
  obtain ⟨name, found⟩ := NameMap.mem_values.mp listed
  exact sound name protocol found

/-- The listed protocols are those stored under their names. -/
theorem Keyed.mem_list (keyed : catalogue.Keyed) :
    protocol ∈ catalogue.list ↔ catalogue.protocols.find? protocol.name = some protocol := by
  rw [list, NameMap.mem_values]
  constructor
  · rintro ⟨name, found⟩
    rwa [keyed name protocol found]
  · intro found
    exact ⟨protocol.name, found⟩

/-- The listed protocols ascend by name. -/
theorem Keyed.list_ascending (keyed : catalogue.Keyed) :
    catalogue.list.Pairwise fun earlier later => earlier.name < later.name := by
  rw [list, NameMap.values, List.pairwise_map]
  apply catalogue.protocols.ascending.imp_of_mem
  intro earlier later earlier_member later_member below
  rwa [keyed earlier.1 earlier.2 (NameMap.find?_eq_some_iff.mpr earlier_member),
    keyed later.1 later.2 (NameMap.find?_eq_some_iff.mpr later_member)]

/-- The canonical names are those that something is stored under. -/
theorem Keyed.mem_names (keyed : catalogue.Keyed) {name : String} :
    name ∈ catalogue.names ↔ ∃ stored, catalogue.protocols.find? name = some stored := by
  rw [names, List.mem_map]
  constructor
  · rintro ⟨stored, listed, rfl⟩
    exact ⟨stored, keyed.mem_list.mp listed⟩
  · rintro ⟨stored, found⟩
    have same := keyed name stored found
    exact ⟨stored, keyed.mem_list.mpr (same ▸ found), same⟩

/-- The canonical names ascend. -/
theorem Keyed.names_ascending (keyed : catalogue.Keyed) : catalogue.names.Pairwise (· < ·) :=
  List.pairwise_map.mpr keyed.list_ascending

/-- Catalogues that store protocols under the same names list the same names. -/
theorem Keyed.names_eq {left right : Catalogue} (left_keyed : left.Keyed)
    (right_keyed : right.Keyed)
    (stored : ∀ name, (∃ found, left.protocols.find? name = some found) ↔
      ∃ found, right.protocols.find? name = some found) : left.names = right.names := by
  refine left_keyed.names_ascending.eq_of_mem_iff right_keyed.names_ascending fun name => ?_
  rw [left_keyed.mem_names, right_keyed.mem_names, stored]

/-- A canonical name stands for the protocol that is stored under it. -/
theorem resolve_of_stored {name : String} {stored : Protocol}
    (found : catalogue.protocols.find? name = some stored) :
    catalogue.resolve name = some stored := by
  unfold resolve
  rw [found]

/-- A name that nothing is stored under stands for what the table leads to. -/
theorem resolve_of_absent {name : String} (absent : catalogue.protocols.find? name = none) :
    catalogue.resolve name = (catalogue.aliases.find? name).bind catalogue.protocols.find? := by
  unfold resolve
  rw [absent]

/-! ## Answers of a registration -/

/-- An accepted registration answers with its outcome and changes the catalogue by it. -/
theorem register_of_accepts (accepts : catalogue.Accepts protocol outcome) :
    catalogue.register protocol =
      ⟨.ok outcome, catalogue.apply protocol outcome, registerLog protocol outcome⟩ := by
  unfold register
  rw [outcome_eq_ok_iff.mpr accepts]

/-- A registration answers with what was decided before it. -/
theorem result_register : (catalogue.register protocol).result = catalogue.outcome protocol := by
  unfold register
  split <;> simp_all

/-- A refused registration changes nothing and says nothing. -/
theorem register_of_error {error : CatalogueError}
    (refused : catalogue.outcome protocol = .error error) :
    catalogue.register protocol = ⟨.error error, catalogue, []⟩ := by
  unfold register
  rw [refused]

end Catalogue

end Covenant
