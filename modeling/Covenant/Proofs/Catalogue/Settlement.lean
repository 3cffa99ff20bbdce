import Covenant.Proofs.Catalogue.Permanence

/-!
# What a registration settles

Once a protocol is registered, all its names stand for one stored protocol, which is the same
contract and lists all its aliases. It is the protocol itself, or, if the contract was stored
before, what was stored then with the aliases that are new. Nothing else is stored or removed, and
registering the protocol once more changes nothing (`Catalogue.register_settles`). None of this
depends on how the catalogue came about: its table may hold any aliases, whoever gave them.
-/
namespace Covenant.Catalogue

variable {catalogue : Catalogue} {protocol : Protocol} {outcome : Outcome}

/-- Every name of a protocol that is held stands for what is stored under its canonical name. -/
theorem Holds.resolve (holds : catalogue.Holds protocol) {stored : Protocol}
    (found : catalogue.protocols.find? protocol.name = some stored) {name : String}
    (answers : protocol.answersTo name = true) : catalogue.resolve name = some stored := by
  by_cases canonical : name = protocol.name
  · rw [canonical]
    exact resolve_of_stored found
  · have member : name ∈ protocol.aliases :=
      (Protocol.answersTo_iff.mp answers).resolve_left (Ne.symm canonical)
    have absent : catalogue.protocols.find? name = none :=
      holds.free.unstored name member canonical
    rw [resolve_of_absent absent, holds.leads name member]
    exact found

/-- A registration that adds or replaces settles to the protocol. -/
theorem settled_eq_self (changes : outcome ≠ .unchanged) :
    catalogue.settled protocol outcome = protocol := by
  cases outcome with
  | added => rfl
  | replaced => rfl
  | unchanged => exact absurd rfl changes

/-- A registration that changes nothing settles to what is stored, with the new aliases after those
that it has. -/
theorem settled_unchanged (accepts : catalogue.Accepts protocol .unchanged) :
    ∃ existing, catalogue.protocols.find? protocol.name = some existing ∧
      catalogue.settled protocol .unchanged =
        { existing with aliases := appendNew existing.aliases protocol.aliases } := by
  cases accepts.settles with
  | unchanged existing stored same => exact ⟨existing, stored, by simp only [settled, stored]⟩

/-- After a successful registration, in any catalogue, every name that the protocol answers to
stands for one and the same stored protocol. That is the same contract and has every alias of the
protocol; it is the protocol itself if one was added or replaced, and otherwise the stored one with
the new aliases appended. What is stored under other names stays, and so do the search paths and the
mode. The same registration again answers that nothing changed, and nothing does. -/
theorem register_settles (accepted : (catalogue.register protocol).result = .ok outcome) :
    (∃ stored ∈ (catalogue.register protocol).catalogue.list,
      (∀ name, protocol.answersTo name = true →
        (catalogue.register protocol).catalogue.resolve name = some stored) ∧
      stored.sameContract protocol = true ∧ protocol.aliases ⊆ stored.aliases ∧
      (outcome = .added ∨ outcome = .replaced → stored = protocol) ∧
      (outcome = .unchanged → ∃ existing,
        catalogue.protocols.find? protocol.name = some existing ∧
          stored = { existing with aliases := appendNew existing.aliases protocol.aliases })) ∧
    (∀ name, name ≠ protocol.name →
      (catalogue.register protocol).catalogue.protocols.find? name =
        catalogue.protocols.find? name) ∧
    (catalogue.register protocol).catalogue.searchPaths = catalogue.searchPaths ∧
    (catalogue.register protocol).catalogue.allowRedeclaration = catalogue.allowRedeclaration ∧
    (catalogue.register protocol).catalogue.register protocol =
      ⟨.ok .unchanged, (catalogue.register protocol).catalogue, []⟩ := by
  rw [result_register] at accepted
  have accepts := outcome_eq_ok_iff.mp accepted
  have holds := holds_apply accepts
  have found : (catalogue.apply protocol outcome).protocols.find? protocol.name =
      some (catalogue.settled protocol outcome) := by
    rw [find?_protocols_apply accepts, if_pos rfl]
  rw [register_of_accepts accepts]
  refine ⟨⟨catalogue.settled protocol outcome, NameMap.mem_values.mpr ⟨protocol.name, found⟩,
    fun name answers => holds.resolve found answers, settled_sameContract accepts, ?_, ?_, ?_⟩,
    ?_, searchPaths_apply, allowRedeclaration_apply, holds.register⟩
  · intro alternate member
    exact (mem_aliases_settled accepts).mpr (.inl member)
  · intro changes
    apply settled_eq_self
    rintro rfl
    simp at changes
  · rintro rfl
    exact settled_unchanged accepts
  · intro name other
    rw [find?_protocols_apply accepts, if_neg other]

/-- Settings whose aliases stand for a protocol before it is stored, and take one of the standard
aliases away. -/
def displacingSettings : Settings where
  aliases := .ofList [("Shut", "Closable"), ("SupportsInt", "Absent")]
  allowRedeclaration := true

/-- A protocol is stored that lists its own name, and an alias is given to it apart from that. -/
def lidHistory : List Event :=
  let files : FileSystem := { root := .directory true [] }
  [⟨files, .register { name := "Closable", aliases := ["Cover", "Closable"]
                       methods := [⟨"close", [], .any⟩] }⟩,
    ⟨files, .addAlias "Lid" "Closable"⟩]

/-- The protocol is replaced by one that takes up the configured and the given alias and keeps the
one that it had. All its names stand for it, and registering the contract again with another alias
appends that. -/
theorem register_settles_replaced :
    let start : Catalogue := { ofSettingsBase displacingSettings with
      aliases := standard.aliases.insertAll displacingSettings.aliases.entries }
    let reached := start.through lidHistory
    let closable : Protocol :=
      { name := "Closable", aliases := ["Lid", "Shut", "Lid", "Cover"]
        methods := [⟨"close", [], .bool⟩] }
    let again : Protocol := { closable with aliases := ["Cap", "Shut"], description := "Closes" }
    let replaced := (reached.register closable).catalogue
    Built displacingSettings.aliases start ∧
      (reached.register closable).result = .ok .replaced ∧
      (∀ name ∈ ["Closable", "Lid", "Shut", "Cover"], replaced.resolve name = some closable) ∧
      replaced.register closable = ⟨.ok .unchanged, replaced, []⟩ ∧
      (replaced.register again).result = .ok .unchanged ∧
      (replaced.register again).catalogue.resolve "Cap" =
        some { closable with aliases := ["Lid", "Shut", "Lid", "Cover", "Cap"] } := by
  intro start reached closable again replaced
  have built : Built displacingSettings.aliases start :=
    .configured displacingSettings _ (.refl _) (addAliases_eq_ok_iff.mpr ⟨by decide +kernel, rfl⟩)
  have accepted : (reached.register closable).result = .ok .replaced :=
    eq_ok_of_toOption (by decide +kernel)
  have accepted_again : (replaced.register again).result = .ok .unchanged :=
    eq_ok_of_toOption (by decide +kernel)
  obtain ⟨⟨stored, -, resolves, -, -, is_closable, -⟩, -, -, -, unchanged⟩ :=
    register_settles accepted
  obtain ⟨⟨merged, -, resolves_again, -, -, -, is_merged⟩, -⟩ := register_settles accepted_again
  obtain rfl := is_closable (.inr rfl)
  obtain ⟨existing, found, rfl⟩ := is_merged rfl
  have canonical : replaced.protocols.find? again.name = some closable := by decide +kernel
  obtain rfl := Option.some.inj (canonical.symm.trans found)
  refine ⟨built, accepted, fun name member => resolves name ?_, unchanged, accepted_again, ?_⟩
  · revert name
    decide
  · exact resolves_again "Cap" (by decide)

end Covenant.Catalogue
