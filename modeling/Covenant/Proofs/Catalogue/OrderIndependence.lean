import Covenant.Proofs.Catalogue.Atomicity
import Covenant.Proofs.Catalogue.Permanence

/-!
# The order of registrations

In a strict catalogue it does not matter in which order protocols are registered. One after
another they are accepted exactly when each is admitted by itself and any two are compatible
(`Catalogue.exists_registers_iff_pairwise`); both conditions read no order. What is stored and what
the table holds afterwards is described by the members of the list alone
(`Catalogue.Registers.stored_iff`, `Catalogue.Registers.listed_iff`,
`Catalogue.Registers.table_iff`).
-/
namespace Covenant

/-- Two protocols can be registered in one strict catalogue: they are one contract, or they have
no name in common. -/
structure Protocol.Compatible (left right : Protocol) : Prop where
  /-- Of one name they are one contract. -/
  contract : left.name = right.name → left.sameContract right = true
  /-- Of different names they answer to different names. -/
  apart : left.name ≠ right.name → ∀ name, left.answersTo name = true →
    right.answersTo name = true → False

/-- Compatibility does not depend on which protocol comes first. -/
theorem Protocol.Compatible.symm {left right : Protocol} (compatible : left.Compatible right) :
    right.Compatible left where
  contract same := sameContract_symm (compatible.contract same.symm)
  apart different name right_answers left_answers :=
    compatible.apart (Ne.symm different) name left_answers right_answers

namespace Catalogue

/-- A strict catalogue would register a protocol. -/
structure Admits (catalogue : Catalogue) (protocol : Protocol) : Prop where
  /-- The protocol is well formed. -/
  sound : protocol.fault? = none
  /-- Its names are free. -/
  free : catalogue.Free protocol
  /-- No other contract is stored under its name. -/
  contract : ∀ existing, catalogue.protocols.find? protocol.name = some existing →
    existing.sameContract protocol = true

variable {catalogue : Catalogue} {protocol first : Protocol} {outcome : Outcome}

/-- A strict catalogue registers exactly the protocols that it admits. -/
theorem exists_accepts_iff (strict : catalogue.allowRedeclaration = false) :
    (∃ outcome, catalogue.Accepts protocol outcome) ↔ catalogue.Admits protocol := by
  constructor
  · rintro ⟨outcome, sound, free, settles⟩
    refine ⟨sound, free, fun found looked => ?_⟩
    cases settles with
    | added fresh =>
      rw [fresh] at looked
      cases looked
    | unchanged existing stored same =>
      rw [stored] at looked
      cases looked
      exact same
    | replaced existing stored other allowed =>
      rw [strict] at allowed
      cases allowed
  · intro admits
    cases looked : catalogue.protocols.find? protocol.name with
    | none => exact ⟨.added, admits.sound, admits.free, .added looked⟩
    | some existing =>
      exact ⟨.unchanged, admits.sound, admits.free,
        .unchanged existing looked (admits.contract existing looked)⟩

/-- What a catalogue admits after it grew, it admitted before. -/
theorem Extends.admits {later earlier : Catalogue} (grows : later.Extends earlier)
    (admits : later.Admits protocol) : earlier.Admits protocol := by
  refine ⟨admits.sound, ⟨?_, ?_, ?_⟩, ?_⟩
  · intro owner leads
    exact admits.free.unaliased owner (grows.table _ _ leads)
  · intro alternate member different
    cases looked : earlier.protocols.find? alternate with
    | none => rfl
    | some found =>
      obtain ⟨kept, kept_looked, _⟩ := grows.stored alternate found looked
      rw [admits.free.unstored alternate member different] at kept_looked
      cases kept_looked
  · intro alternate member owner leads
    exact admits.free.unshared alternate member owner (grows.table _ _ leads)
  · intro existing looked
    obtain ⟨kept, kept_looked, widens⟩ := grows.stored _ existing looked
    exact Protocol.sameContract_trans (Protocol.sameContract_symm widens.contract)
      (admits.contract kept kept_looked)

/-- A protocol that is held is compatible with every protocol that is admitted. -/
theorem Holds.compatible (holds : catalogue.Holds first) (admits : catalogue.Admits protocol) :
    first.Compatible protocol := by
  obtain ⟨existing, looked, same, _⟩ := holds.stored
  constructor
  · intro names
    rw [names] at looked
    exact Protocol.sameContract_trans (Protocol.sameContract_symm same)
      (admits.contract existing looked)
  · intro different name first_answers answers
    rcases Protocol.answersTo_iff.mp first_answers with rfl | first_member
    · rcases Protocol.answersTo_iff.mp answers with named | member
      · exact different named.symm
      · rw [admits.free.unstored first.name member different] at looked
        cases looked
    · have leads := holds.leads name first_member
      rcases Protocol.answersTo_iff.mp answers with rfl | member
      · exact different (admits.free.unaliased first.name leads)
      · exact different (admits.free.unshared name member first.name leads)

/-- A protocol that is admitted, and compatible with one that is registered, is admitted after
it. -/
theorem Admits.apply (admits : catalogue.Admits protocol)
    (strict : catalogue.allowRedeclaration = false) (accepts : catalogue.Accepts first outcome)
    (compatible : first.Compatible protocol) :
    (catalogue.apply first outcome).Admits protocol := by
  -- A name that both protocols answer to can only be theirs if their canonical names agree.
  have shared (name : String) (first_member : name ∈ first.aliases)
      (answers : protocol.answersTo name = true) : first.name = protocol.name := by
    apply Decidable.byContradiction
    intro different
    exact compatible.apart different name (Protocol.answersTo_iff.mpr (.inr first_member)) answers
  refine ⟨admits.sound, ⟨?_, ?_, ?_⟩, ?_⟩
  · intro owner leads
    rw [find?_aliases_apply_of_strict strict accepts] at leads
    split at leads
    · rename_i first_member
      rw [← Option.some.inj leads]
      exact shared protocol.name first_member (Protocol.answersTo_iff.mpr (.inl rfl))
    · exact admits.free.unaliased owner leads
  · intro alternate member different
    rw [find?_protocols_apply accepts]
    split
    · rename_i named
      have apart : first.name ≠ protocol.name := named ▸ different
      exact (compatible.apart apart alternate (Protocol.answersTo_iff.mpr (.inl named.symm))
        (Protocol.answersTo_iff.mpr (.inr member))).elim
    · exact admits.free.unstored alternate member different
  · intro alternate member owner leads
    rw [find?_aliases_apply_of_strict strict accepts] at leads
    split at leads
    · rename_i first_member
      rw [← Option.some.inj leads]
      exact shared alternate first_member (Protocol.answersTo_iff.mpr (.inr member))
    · exact admits.free.unshared alternate member owner leads
  · intro existing looked
    rw [find?_protocols_apply accepts] at looked
    split at looked
    · rename_i names
      rw [← Option.some.inj looked]
      exact Protocol.sameContract_trans (settled_sameContract accepts)
        (compatible.contract names.symm)
    · exact admits.contract existing looked

/-- After an accepted registration a strict catalogue admits what it admitted before and what is
compatible with the registered protocol. -/
theorem admits_apply_iff (strict : catalogue.allowRedeclaration = false)
    (accepts : catalogue.Accepts first outcome) :
    (catalogue.apply first outcome).Admits protocol ↔
      catalogue.Admits protocol ∧ first.Compatible protocol :=
  ⟨fun admits => ⟨(extends_apply strict accepts).admits admits,
      (holds_apply accepts).compatible admits⟩,
    fun ⟨admits, compatible⟩ => admits.apply strict accepts compatible⟩

/-- Protocols are accepted one after another exactly when each is admitted by itself and any two
are compatible. -/
theorem exists_registers_iff_pairwise (strict : catalogue.allowRedeclaration = false)
    {protocols : List Protocol} :
    (∃ last, Registers catalogue protocols last) ↔
      (∀ protocol ∈ protocols, catalogue.Admits protocol) ∧
        protocols.Pairwise Protocol.Compatible := by
  induction protocols generalizing catalogue with
  | nil => exact ⟨fun _ => ⟨fun _ member => absurd member List.not_mem_nil, .nil⟩,
      fun _ => ⟨catalogue, .nil catalogue⟩⟩
  | cons protocol rest ih =>
    -- After the first protocol the others are admitted exactly when they were admitted before and
    -- are compatible with it, which is what the pairs of the first protocol say.
    rw [List.forall_mem_cons, List.pairwise_cons]
    constructor
    · rintro ⟨last, registers⟩
      cases registers with
      | @cons _ _ _ outcome _ accepts others =>
        obtain ⟨later, pairwise⟩ := (ih (allowRedeclaration_apply.trans strict)).mp ⟨last, others⟩
        have before := fun other member =>
          (admits_apply_iff strict accepts).mp (later other member)
        exact ⟨⟨(exists_accepts_iff strict).mp ⟨outcome, accepts⟩,
          fun other member => (before other member).1⟩,
          fun other member => (before other member).2, pairwise⟩
    · rintro ⟨⟨admits, others⟩, compatible, pairwise⟩
      obtain ⟨outcome, accepts⟩ := (exists_accepts_iff strict).mpr admits
      have later : ∀ other ∈ rest, (catalogue.apply protocol outcome).Admits other :=
        fun other member => (others other member).apply strict accepts (compatible other member)
      obtain ⟨last, registers⟩ :=
        (ih (allowRedeclaration_apply.trans strict)).mpr ⟨later, pairwise⟩
      exact ⟨last, .cons accepts registers⟩

/-! ## What is left by protocols in any order -/

namespace Registers

variable {last : Catalogue} {protocols : List Protocol}

/-- Afterwards the table holds what it held and the aliases of the registered protocols. -/
theorem table_iff (registers : Registers catalogue protocols last)
    (strict : catalogue.allowRedeclaration = false) {alternate target : String} :
    last.aliases.find? alternate = some target ↔
      catalogue.aliases.find? alternate = some target ∨
        ∃ protocol ∈ protocols, protocol.name = target ∧ alternate ∈ protocol.aliases := by
  induction registers with
  | nil _ => simp
  | @cons catalogue _ protocol _ _ accepts _ ih =>
    simp only [ih (allowRedeclaration_apply.trans strict),
      find?_aliases_apply_of_strict strict accepts, List.mem_cons, exists_eq_or_imp]
    rw [← or_assoc]
    apply or_congr_left
    split
    · rename_i member
      rw [Option.some.injEq]
      constructor
      · exact fun names => .inr ⟨names, member⟩
      · rintro (leads | ⟨names, _⟩)
        · exact (accepts.free.unshared alternate member target leads).symm
        · exact names
    · rename_i absent
      exact ⟨.inl, fun leads => leads.resolve_right fun own => absent own.2⟩

/-- Afterwards the canonical names are those from before and those of the registered protocols. -/
theorem stored_iff (registers : Registers catalogue protocols last) {name : String} :
    (∃ stored, last.protocols.find? name = some stored) ↔
      (∃ stored, catalogue.protocols.find? name = some stored) ∨
        ∃ protocol ∈ protocols, protocol.name = name := by
  induction registers with
  | nil _ => simp
  | @cons catalogue _ protocol _ _ accepts _ ih =>
    simp only [ih, find?_protocols_apply accepts, List.mem_cons, exists_eq_or_imp]
    rw [← or_assoc]
    apply or_congr_left
    by_cases own : name = protocol.name
    · simp [own]
    · simp [own, Ne.symm own]

/-- Afterwards the protocol of a name lists the aliases from before and those of the registered
protocols of the name. -/
theorem listed_iff (registers : Registers catalogue protocols last)
    (strict : catalogue.allowRedeclaration = false) {name alternate : String} :
    (∃ stored, last.protocols.find? name = some stored ∧ alternate ∈ stored.aliases) ↔
      (∃ stored, catalogue.protocols.find? name = some stored ∧ alternate ∈ stored.aliases) ∨
        ∃ protocol ∈ protocols, protocol.name = name ∧ alternate ∈ protocol.aliases := by
  induction registers with
  | nil _ => simp
  | @cons catalogue _ protocol _ _ accepts _ ih =>
    simp only [ih (allowRedeclaration_apply.trans strict), find?_protocols_apply accepts,
      List.mem_cons, exists_eq_or_imp]
    rw [← or_assoc]
    apply or_congr_left
    by_cases own : name = protocol.name
    · simp [own, mem_aliases_settled accepts, released_of_strict strict accepts, or_comm]
    · simp [own, Ne.symm own]

end Registers

/-- Two catalogues tell their protocols apart at most by descriptions and by the order of
aliases. -/
structure AgreesUpToOrder (left right : Catalogue) : Prop where
  /-- The canonical names are the same. -/
  names : left.names = right.names
  /-- Protocols of one name are one contract and have the same aliases. -/
  protocols : ∀ here ∈ left.list, ∀ there ∈ right.list, here.name = there.name →
    here.sameContract there = true ∧
      ∀ alternate, alternate ∈ here.aliases ↔ alternate ∈ there.aliases
  /-- A name stands for protocols of one name, or for nothing in both. -/
  resolve : ∀ name, (left.resolve name).map (·.name) = (right.resolve name).map (·.name)

/-- Catalogues with the same stored names and the same table resolve a name to the same name. -/
theorem resolve_name_eq {left right : Catalogue} (left_keyed : left.Keyed)
    (right_keyed : right.Keyed)
    (stored : ∀ name, (∃ found, left.protocols.find? name = some found) ↔
      ∃ found, right.protocols.find? name = some found)
    (aliases : left.aliases = right.aliases) (name : String) :
    (left.resolve name).map (·.name) = (right.resolve name).map (·.name) := by
  have canonical (target : String) : (left.protocols.find? target).map (·.name) =
      (right.protocols.find? target).map (·.name) := by
    cases here : left.protocols.find? target with
    | some found =>
      obtain ⟨other, there⟩ := (stored target).mp ⟨found, here⟩
      rw [there, Option.map_some, Option.map_some, left_keyed target found here,
        right_keyed target other there]
    | none =>
      cases there : right.protocols.find? target with
      | none => rfl
      | some other =>
        obtain ⟨found, here'⟩ := (stored target).mpr ⟨other, there⟩
        rw [here] at here'
        cases here'
  have same := canonical name
  cases here : left.protocols.find? name with
  | some found =>
    obtain ⟨other, there⟩ := (stored name).mp ⟨found, here⟩
    rw [here, there] at same
    rw [resolve_of_stored here, resolve_of_stored there, same]
  | none =>
    rw [here, Option.map_none, eq_comm, Option.map_eq_none_iff] at same
    rw [resolve_of_absent here, resolve_of_absent same, aliases]
    cases right.aliases.find? name with
    | none => rfl
    | some target => exact canonical target

/-- A name has the same contract whatever the order of the registrations: the one from before, or
that of a registered protocol of the name. -/
theorem Registers.sameContract_of_perm {left right : Catalogue}
    {protocols permuted : List Protocol} {name : String} {found other : Protocol}
    (here : Registers catalogue protocols left) (there : Registers catalogue permuted right)
    (perm : protocols.Perm permuted) (strict : catalogue.allowRedeclaration = false)
    (found_stored : left.protocols.find? name = some found)
    (other_stored : right.protocols.find? name = some other) : found.sameContract other = true := by
  rcases here.stored_iff.mp ⟨found, found_stored⟩ with
    ⟨before, before_stored⟩ | ⟨protocol, member, named⟩
  · obtain ⟨kept, kept_stored, widens⟩ := (here.extends strict).1.stored _ before before_stored
    obtain ⟨kept', kept_stored', widens'⟩ :=
      (there.extends strict).1.stored _ before before_stored
    rw [found_stored] at kept_stored
    rw [other_stored] at kept_stored'
    cases kept_stored
    cases kept_stored'
    exact Protocol.sameContract_trans widens.contract
      (Protocol.sameContract_symm widens'.contract)
  · obtain ⟨kept, kept_stored, same, _⟩ := ((here.extends strict).2 protocol member).stored
    obtain ⟨kept', kept_stored', same', _⟩ :=
      ((there.extends strict).2 protocol (perm.mem_iff.mp member)).stored
    rw [named, found_stored] at kept_stored
    rw [named, other_stored] at kept_stored'
    cases kept_stored
    cases kept_stored'
    exact Protocol.sameContract_trans same (Protocol.sameContract_symm same')

/-- Protocols registered in another order leave catalogues that agree up to order. -/
theorem Registers.agrees_of_perm {left right : Catalogue} {protocols permuted : List Protocol}
    (here : Registers catalogue protocols left) (there : Registers catalogue permuted right)
    (perm : protocols.Perm permuted) (strict : catalogue.allowRedeclaration = false)
    (keyed : catalogue.Keyed) : left.AgreesUpToOrder right := by
  have left_keyed : left.Keyed := here.preserves Keyed.apply keyed
  have right_keyed : right.Keyed := there.preserves Keyed.apply keyed
  have stored (name : String) : (∃ found, left.protocols.find? name = some found) ↔
      ∃ found, right.protocols.find? name = some found := by
    simp only [here.stored_iff, there.stored_iff, perm.mem_iff]
  have aliases : left.aliases = right.aliases := by
    apply NameMap.ext_find?_some
    intro alternate target
    simp only [here.table_iff strict, there.table_iff strict, perm.mem_iff]
  refine ⟨left_keyed.names_eq right_keyed stored, ?_,
    resolve_name_eq left_keyed right_keyed stored aliases⟩
  intro found found_listed other other_listed names
  have found_stored := left_keyed.mem_list.mp found_listed
  have other_stored := right_keyed.mem_list.mp other_listed
  rw [← names] at other_stored
  refine ⟨here.sameContract_of_perm there perm strict found_stored other_stored,
    fun alternate => ?_⟩
  have listed : (∃ stored, left.protocols.find? found.name = some stored ∧
        alternate ∈ stored.aliases) ↔
      ∃ stored, right.protocols.find? found.name = some stored ∧
        alternate ∈ stored.aliases := by
    simp only [here.listed_iff strict, there.listed_iff strict, perm.mem_iff]
  simpa [found_stored, other_stored] using listed

/-- Protocols are accepted in one order exactly when they are accepted in another. -/
theorem exists_registers_perm (strict : catalogue.allowRedeclaration = false)
    {protocols permuted : List Protocol} (perm : protocols.Perm permuted) :
    (∃ last, Registers catalogue protocols last) ↔ ∃ last, Registers catalogue permuted last := by
  rw [exists_registers_iff_pairwise strict, exists_registers_iff_pairwise strict,
    perm.pairwise_iff Protocol.Compatible.symm]
  simp only [perm.mem_iff]

/-- A text that declares a list of protocols is accepted exactly when the protocols are accepted one
after another. -/
theorem registerText_list_iff {text : String} {protocols : List Protocol}
    (declares : Declarations.ofYaml text = .ok (.list protocols)) :
    (∃ count, (catalogue.registerText text).result = .ok count) ↔
      (catalogue.registerEach protocols).result = .ok () := by
  rw [registerText_of_list declares, result_registerList]
  cases (catalogue.registerEach protocols).result with
  | ok _ => simp [Except.map]
  | error error => simp [Except.map]

/-- In a strict catalogue, after any history, protocols are accepted one after another exactly when
they are in every order, and what is left agrees up to order. A text that declares a list of
protocols is accepted whatever the order of its entries. -/
theorem registerEach_order_independent {given : NameMap String} {start : Catalogue}
    (built : Built given start) (strict : start.allowRedeclaration = false)
    (history : List Event) (protocols : List Protocol) :
    (((start.through history).registerEach protocols).result = .ok () ↔
      ∀ permuted, protocols.Perm permuted →
        ((start.through history).registerEach permuted).result = .ok ()) ∧
    (∀ permuted, protocols.Perm permuted →
      ((start.through history).registerEach protocols).result = .ok () →
        ((start.through history).registerEach protocols).catalogue.AgreesUpToOrder
          ((start.through history).registerEach permuted).catalogue) ∧
    ∀ text other permuted, protocols.Perm permuted →
      Declarations.ofYaml text = .ok (.list protocols) →
        Declarations.ofYaml other = .ok (.list permuted) →
          ((∃ count, ((start.through history).registerText text).result = .ok count) ↔
            ∃ count, ((start.through history).registerText other).result = .ok count) := by
  have still_strict := (allowRedeclaration_through start history).trans strict
  have keyed := built.keyed.through history
  have orders (permuted : List Protocol) (perm : protocols.Perm permuted) :
      ((start.through history).registerEach protocols).result = .ok () ↔
        ((start.through history).registerEach permuted).result = .ok () := by
    rw [← exists_registers_iff, ← exists_registers_iff]
    exact exists_registers_perm still_strict perm
  refine ⟨⟨?_, ?_⟩, ?_, ?_⟩
  · exact fun succeeds permuted perm => (orders permuted perm).mp succeeds
  · exact fun every => every protocols (.refl protocols)
  · intro permuted perm succeeds
    have here := registers_registerEach succeeds
    have there := registers_registerEach ((orders permuted perm).mp succeeds)
    exact here.agrees_of_perm there perm still_strict keyed
  · intro text other permuted perm declares other_declares
    rw [registerText_list_iff declares, registerText_list_iff other_declares]
    exact orders permuted perm

/-- Two protocols of one contract, each with an alias of its own, around another one. -/
def sharedList (first last : String) : List Protocol := [
  { name := "A", aliases := [first], methods := [⟨"a", [], .any⟩] },
  { name := "B", methods := [⟨"b", [], .any⟩] },
  { name := "A", aliases := [last], methods := [⟨"a", [], .any⟩] }]

/-- A text that lists them. -/
def sharedText (first last : String) : String :=
  "protocols:\n- name: A\n  aliases: [" ++ first ++ "]\n  methods:\n  - name: a\n" ++
    "- name: B\n  methods:\n  - name: b\n" ++
    "- name: A\n  aliases: [" ++ last ++ "]\n  methods:\n  - name: a\n"

/-- After a refused list and an added alias the protocols are registered in both orders, and the
texts that list them stand and fall together. -/
theorem registerEach_order_independent_shared :
    let files : FileSystem := { root := .directory true [] }
    let history : List Event := [
      ⟨files, .registerText "protocols:\n- name: Sized\n  methods:\n  - name: size\n"⟩,
      ⟨files, .addAlias "Emptiable" "Sized"⟩]
    let reached := standard.through history
    let straight := reached.registerEach (sharedList "X" "Y")
    let reversed := reached.registerEach (sharedList "Y" "X")
    straight.result = .ok () ∧ reversed.result = .ok () ∧
      straight.catalogue.AgreesUpToOrder reversed.catalogue ∧
      ((∃ count, (reached.registerText (sharedText "X" "Y")).result = .ok count) ↔
        ∃ count, (reached.registerText (sharedText "Y" "X")).result = .ok count) := by
  have declares : Declarations.ofYaml (sharedText "X" "Y") = .ok (.list (sharedList "X" "Y")) :=
    declares_list (by decide +kernel)
  have reversed_declares :
      Declarations.ofYaml (sharedText "Y" "X") = .ok (.list (sharedList "Y" "X")) :=
    declares_list (by decide +kernel)
  have perm : (sharedList "X" "Y").Perm (sharedList "Y" "X") := (List.reverse_perm _).symm
  intro files history reached straight reversed
  have accepted : straight.result = .ok () := registerEach_eq_ok (by decide +kernel)
  obtain ⟨orders, agree, texts⟩ :=
    registerEach_order_independent .standard rfl history (sharedList "X" "Y")
  exact ⟨accepted, orders.mp accepted _ perm, agree _ perm accepted,
    texts _ _ _ perm declares reversed_declares⟩

end Catalogue

end Covenant
