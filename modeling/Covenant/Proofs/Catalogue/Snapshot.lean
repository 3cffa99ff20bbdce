import Covenant.Proofs.Catalogue.AliasIndex
import Covenant.Proofs.Catalogue.Atomicity
import Covenant.Proofs.Catalogue.OrderIndependence

/-!
# The list as a snapshot

As long as no alias is given apart from a registration, the listed protocols hold all that a
catalogue knows. No two of them answer to one name (`Catalogue.Indexed.compatible`), so an empty
catalogue adds them in any order, each as it is (`Catalogue.Registers.added_iff`), and ends with
the same stored protocols and the same table (`Catalogue.list_rebuilds`). A stale entry of the
table, or a missing one, would show as a difference there.
-/
namespace Covenant.Catalogue

variable {catalogue last : Catalogue} {protocol : Protocol} {outcome : Outcome}
  {protocols permuted : List Protocol}

/-! ## Protocols of different names -/

/-- A protocol of a name that nothing is stored under settles to itself. -/
theorem settled_of_fresh (fresh : catalogue.protocols.find? protocol.name = none) :
    catalogue.settled protocol outcome = protocol := by
  cases outcome with
  | added => rfl
  | replaced => rfl
  | unchanged => simp only [settled, fresh]

/-- Protocols of different names that nothing is stored under are stored as they are, beside what
was stored. -/
theorem Registers.added_iff (registers : Registers catalogue protocols last)
    (distinct : protocols.Pairwise fun left right => left.name ≠ right.name)
    (fresh : ∀ protocol ∈ protocols, catalogue.protocols.find? protocol.name = none)
    {name : String} {found : Protocol} :
    last.protocols.find? name = some found ↔
      catalogue.protocols.find? name = some found ∨ found ∈ protocols ∧ found.name = name := by
  induction registers with
  | nil _ => simp
  | @cons catalogue _ protocol outcome rest accepts _ ih =>
    obtain ⟨apart, distinct⟩ := List.pairwise_cons.mp distinct
    obtain ⟨absent, fresh⟩ := List.forall_mem_cons.mp fresh
    -- What is added first is under none of the names to come.
    have still_fresh : ∀ other ∈ rest,
        (catalogue.apply protocol outcome).protocols.find? other.name = none := by
      intro other member
      rw [find?_protocols_apply accepts, if_neg (apart other member).symm]
      exact fresh other member
    rw [ih distinct still_fresh, find?_protocols_apply accepts, settled_of_fresh absent,
      List.mem_cons, or_and_right, ← or_assoc]
    apply or_congr_left
    by_cases own : name = protocol.name
    · subst own
      rw [if_pos rfl, absent, Option.some.injEq]
      constructor
      · rintro rfl
        exact .inr ⟨rfl, rfl⟩
      · rintro (impossible | ⟨rfl, -⟩)
        · cases impossible
        · rfl
    · rw [if_neg own]
      refine ⟨.inl, fun found_or_first => found_or_first.resolve_right ?_⟩
      rintro ⟨rfl, named⟩
      exact own named.symm

/-- Where nothing is stored under the name of a protocol, it is added if it is accepted. -/
theorem Accepts.outcome_of_fresh (accepts : catalogue.Accepts protocol outcome)
    (fresh : catalogue.protocols.find? protocol.name = none) : outcome = .added := by
  cases accepts.settles with
  | added _ => rfl
  | unchanged existing stored same =>
    rw [fresh] at stored
    cases stored
  | replaced existing stored other allowed =>
    rw [fresh] at stored
    cases stored

/-- Protocols of different names that are accepted in turn by the empty catalogue are all added. -/
theorem AcceptsInTurn.added (accepts : empty.AcceptsInTurn protocols)
    (distinct : protocols.Pairwise fun left right => left.name ≠ right.name)
    {earlier later : List Protocol} (splits : protocols = earlier ++ protocol :: later) :
    ((empty.inTurn earlier).register protocol).result = .ok .added := by
  obtain ⟨outcome, accepted⟩ := accepts earlier protocol later splits
  rw [splits] at accepts distinct
  have apart := (List.pairwise_append.mp distinct).2.2
  have fresh : (empty.inTurn earlier).protocols.find? protocol.name = none := by
    refine Option.eq_none_iff_forall_ne_some.mpr fun stored found => ?_
    rcases accepts.of_append.registers.stored_iff.mp ⟨stored, found⟩ with
      ⟨_, impossible⟩ | ⟨other, member, named⟩
    · cases impossible
    · exact apart other member protocol List.mem_cons_self named
  rw [result_register] at accepted ⊢
  rw [accepted, (outcome_eq_ok_iff.mp accepted).outcome_of_fresh fresh]

/-! ## What is listed -/

/-- The empty catalogue admits every protocol that is well formed. -/
theorem admits_empty (sound : protocol.fault? = none) : Admits .empty protocol where
  sound := sound
  free := ⟨nofun, fun _ _ _ => rfl, nofun⟩
  contract := nofun

/-- Two stored protocols are compatible where the table is in step with the alias lists. -/
theorem Indexed.compatible (indexed : catalogue.Indexed) {left right : Protocol}
    (left_listed : left ∈ catalogue.list) (right_listed : right ∈ catalogue.list) :
    left.Compatible right where
  contract names := by
    have left_stored := indexed.keyed.mem_list.mp left_listed
    rw [names, indexed.keyed.mem_list.mp right_listed] at left_stored
    cases left_stored
    exact left.sameContract_refl
  apart different name left_answers right_answers := by
    have left_found := indexed.resolve_eq_some_iff.mpr ⟨left_listed, left_answers⟩
    have right_found := indexed.resolve_eq_some_iff.mpr ⟨right_listed, right_answers⟩
    rw [left_found] at right_found
    cases right_found
    exact different rfl

/-- The empty catalogue accepts the stored protocols of another one in any order. -/
theorem Indexed.acceptsInTurn (indexed : catalogue.Indexed) (sound : catalogue.Sound)
    (perm : permuted.Perm catalogue.list) : empty.AcceptsInTurn permuted := by
  have listed (protocol : Protocol) (member : protocol ∈ permuted) : protocol ∈ catalogue.list :=
    perm.mem_iff.mp member
  rw [← registerEach_eq_ok_iff, ← exists_registers_iff, exists_registers_iff_pairwise rfl]
  constructor
  · exact fun protocol member => admits_empty (sound.of_listed (listed protocol member))
  · exact List.pairwise_of_forall_mem_list fun left here right there =>
      indexed.compatible (listed left here) (listed right there)

/-- The stored protocols have different names in any order. -/
theorem Keyed.distinct_of_perm (keyed : catalogue.Keyed) (perm : permuted.Perm catalogue.list) :
    permuted.Pairwise fun left right => left.name ≠ right.name := by
  refine (perm.pairwise_iff Ne.symm).mpr (keyed.list_ascending.imp ?_)
  intro left right below same
  rw [same] at below
  exact String.lt_irrefl right.name below

/-- Registering the listed protocols in any order leaves an empty catalogue with the same stored
protocols. -/
theorem Indexed.protocols_inTurn (indexed : catalogue.Indexed) (sound : catalogue.Sound)
    (perm : permuted.Perm catalogue.list) :
    (empty.inTurn permuted).protocols = catalogue.protocols := by
  have registers := (indexed.acceptsInTurn sound perm).registers
  apply NameMap.ext_find?_some
  intro name found
  rw [registers.added_iff (indexed.keyed.distinct_of_perm perm) (fun _ _ => rfl), perm.mem_iff,
    indexed.keyed.mem_list]
  constructor
  · rintro (impossible | ⟨stored, rfl⟩)
    · cases impossible
    · exact stored
  · intro stored
    have named := indexed.keyed name found stored
    exact .inr ⟨named ▸ stored, named⟩

/-- Registering the listed protocols in any order leaves an empty catalogue with the same table. -/
theorem Indexed.aliases_inTurn (indexed : catalogue.Indexed) (sound : catalogue.Sound)
    (perm : permuted.Perm catalogue.list) :
    (empty.inTurn permuted).aliases = catalogue.aliases := by
  have registers := (indexed.acceptsInTurn sound perm).registers
  apply NameMap.ext_find?_some
  intro alternate target
  rw [registers.table_iff rfl, indexed.listed]
  constructor
  · rintro (impossible | ⟨owner, member, rfl, lists⟩)
    · cases impossible
    · exact ⟨owner, indexed.keyed.mem_list.mp (perm.mem_iff.mp member), lists⟩
  · rintro ⟨owner, stored, lists⟩
    exact .inr ⟨owner, perm.mem_iff.mpr (NameMap.mem_values.mpr ⟨target, stored⟩),
      indexed.keyed target owner stored, lists⟩

/-- The list is a faithful snapshot. After any history without configured and added aliases, an
empty catalogue adds the listed protocols in any order, each of them, and is left with the same
stored protocols and the same table. -/
theorem list_rebuilds {start : Catalogue} {history : List Event} {permuted : List Protocol}
    (built : Built .empty start)
    (aliasFree : ∀ event ∈ history, event.operation.givesAlias = false)
    (perm : permuted.Perm (start.through history).list) :
    (∀ earlier protocol later, permuted = earlier ++ protocol :: later →
      ((empty.inTurn earlier).register protocol).result = .ok .added) ∧
    (empty.inTurn permuted).protocols = (start.through history).protocols ∧
    (empty.inTurn permuted).aliases = (start.through history).aliases := by
  have indexed := (built.indexed rfl).through aliasFree
  have sound := built.sound.through history
  refine ⟨?_, indexed.protocols_inTurn sound perm, indexed.aliases_inTurn sound perm⟩
  intro earlier protocol later splits
  exact (indexed.acceptsInTurn sound perm).added (indexed.keyed.distinct_of_perm perm) splits

/-- After a list is refused and a protocol replaced, the protocol learns two aliases, one of them
its own name. -/
def mergingHistory : List Event :=
  replacingHistory ++ [⟨{ root := .directory true [] },
    .register { name := "Closable", aliases := ["Closable", "Shut"]
                methods := [⟨"close", [], .any⟩] }⟩]

/-- Backwards, the empty catalogue adds the merged protocol last, and ends with the stored protocols
and the table of the lenient catalogue. The alias of the protocol that was replaced is in neither
table. -/
theorem list_rebuilds_merging :
    let lenient := ofSettingsBase { allowRedeclaration := true }
    let reached := lenient.through mergingHistory
    let closable : Protocol :=
      { name := "Closable", aliases := ["Shuttable", "Closable", "Shut"]
        methods := [⟨"close", [], .any⟩] }
    Built .empty lenient ∧ (∀ event ∈ mergingHistory, event.operation.givesAlias = false) ∧
      reached.list.reverse.Perm reached.list ∧
      ((empty.inTurn reached.list.tail.reverse).register closable).result = .ok .added ∧
      (empty.inTurn reached.list.reverse).protocols = reached.protocols ∧
      (empty.inTurn reached.list.reverse).aliases = reached.aliases ∧
      (empty.inTurn reached.list.reverse).aliases.find? "Shut" = some "Closable" ∧
      (empty.inTurn reached.list.reverse).aliases.find? "SupportsClose" = none := by
  intro lenient reached closable
  have built : Built .empty lenient :=
    .configured { allowRedeclaration := true } [] .nil rfl
  have aliasFree : ∀ event ∈ mergingHistory, event.operation.givesAlias = false := by decide
  have perm : reached.list.reverse.Perm reached.list := List.reverse_perm _
  obtain ⟨added, protocols, aliases⟩ := list_rebuilds built aliasFree perm
  have ended : reached.list.reverse = reached.list.tail.reverse ++ [closable] ∧
      reached.aliases.find? "Shut" = some "Closable" ∧
      reached.aliases.find? "SupportsClose" = none := by decide +kernel
  rw [← aliases] at ended
  exact ⟨built, aliasFree, perm, added _ closable [] ended.1, protocols, aliases, ended.2⟩

end Covenant.Catalogue
