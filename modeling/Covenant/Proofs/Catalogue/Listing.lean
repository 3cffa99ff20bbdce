import Covenant.Proofs.Catalogue.Checking
import Covenant.Proofs.Protocol.Validation
import Covenant.Proofs.Text.CodeOrder

/-!
# What a catalogue lists

Whatever is done to a catalogue, aliases that are given apart from registrations and operations
that fail included, it stores well-formed protocols under their own names and lists them once each
in the order of their names (`Catalogue.listing_invariants`). The table of aliases has no part in
this: a canonical name stands for its own protocol under every table, and no name stands for a
protocol that is not listed. No operation removes a canonical name.
-/
namespace Covenant.Catalogue

variable {catalogue : Catalogue}

/-- As many names are listed as protocols are stored. -/
theorem length_names (catalogue : Catalogue) : catalogue.names.length = catalogue.size := by
  rw [names, list, NameMap.values, List.length_map, List.length_map, size, NameMap.size]

/-- A listed name stands for the protocol that is stored under it, whatever the table leads to. -/
theorem Keyed.resolve_listed (keyed : catalogue.Keyed) {name : String}
    (listed : name ∈ catalogue.names) :
    ∃ stored, catalogue.protocols.find? name = some stored ∧ stored.name = name ∧
      ∀ table, { catalogue with aliases := table }.resolve name = some stored := by
  obtain ⟨stored, found⟩ := keyed.mem_names.mp listed
  exact ⟨stored, found, keyed name stored found, fun table => resolve_of_stored found⟩

/-- The protocols of the two origins make up all that is listed. -/
theorem listByOrigin_perm (catalogue : Catalogue) :
    (catalogue.listByOrigin .own ++ catalogue.listByOrigin .standard).Perm catalogue.list := by
  have others : catalogue.listByOrigin .standard =
      catalogue.list.filter fun protocol => !(protocol.origin == .own) := by
    apply List.filter_congr
    intro protocol _
    cases protocol.origin <;> rfl
  rw [others]
  exact List.filter_append_perm _ _

/-- No protocol is listed under two origins. -/
theorem disjoint_listByOrigin (catalogue : Catalogue) {left right : Origin}
    (different : left ≠ right) :
    List.Disjoint (catalogue.listByOrigin left) (catalogue.listByOrigin right) := by
  intro protocol in_left in_right
  have from_left := (List.mem_filter.mp in_left).2
  have from_right := (List.mem_filter.mp in_right).2
  exact different ((eq_of_beq from_left).symm.trans (eq_of_beq from_right))

/-- No operation removes a canonical name. -/
theorem Keyed.names_perform (keyed : catalogue.Keyed) (event : Event) :
    catalogue.names ⊆ (catalogue.perform event.system event.operation).catalogue.names := by
  let keeps (reached : Catalogue) : Prop := reached.Keyed ∧ ∀ name ∈ catalogue.names,
    ∃ stored, reached.protocols.find? name = some stored
  have kept : keeps (catalogue.perform event.system event.operation).catalogue := by
    apply perform_preserves (motive := keeps) _ (fun _ start => start) (fun _ _ _ start => start)
    · exact ⟨keyed, fun name => keyed.mem_names.mp⟩
    · rintro reached protocol outcome ⟨reached_keyed, stored⟩ accepts
      refine ⟨reached_keyed.apply accepts, fun name listed => ?_⟩
      rw [find?_protocols_apply accepts]
      split
      · exact ⟨_, rfl⟩
      · exact stored name listed
  exact fun name listed => kept.1.mem_names.mpr (kept.2 name listed)

/-- After any history of operations, whatever aliases are configured and added, the following
holds. Every stored protocol passes validation and is stored under its own name. The canonical
names ascend strictly by the bytes of their UTF-8 form, and there are as many as stored protocols.
Each of them stands for the protocol that is stored under it under every table of aliases, and what
a name stands for is listed. The protocols of the two origins are disjoint parts of the list, in its
order, that make it up together. No further operation removes a canonical name. -/
theorem listing_invariants {given : NameMap String} {start : Catalogue}
    (built : Built given start) (history : List Event) :
    (∀ name stored, (start.through history).protocols.find? name = some stored →
      stored.name = name ∧ stored.validate = .ok stored) ∧
    ((start.through history).names.Pairwise fun earlier later =>
      earlier.toUTF8.data.toList < later.toUTF8.data.toList) ∧
    (start.through history).names.length = (start.through history).size ∧
    (∀ name ∈ (start.through history).names,
      ∃ stored, (start.through history).protocols.find? name = some stored ∧
        stored.name = name ∧
        ∀ table, { start.through history with aliases := table }.resolve name = some stored) ∧
    (∀ name found, (start.through history).resolve name = some found →
      found ∈ (start.through history).list) ∧
    ((∀ origin,
      ((start.through history).listByOrigin origin).Sublist (start.through history).list) ∧
      List.Disjoint ((start.through history).listByOrigin .own)
        ((start.through history).listByOrigin .standard) ∧
      ((start.through history).listByOrigin .own ++
        (start.through history).listByOrigin .standard).Perm (start.through history).list) ∧
    ∀ event, (start.through history).names ⊆ (start.through (history ++ [event])).names := by
  have keyed := built.keyed.through history
  have sound := built.sound.through history
  refine ⟨?_, ?_, length_names _, fun name => keyed.resolve_listed,
    fun name found => mem_list_of_resolve, ⟨fun origin => List.filter_sublist,
      disjoint_listByOrigin _ (by decide), listByOrigin_perm _⟩, ?_⟩
  · intro name stored found
    exact ⟨keyed name stored found, Protocol.validate_eq_ok_iff.mpr (sound name stored found)⟩
  · exact keyed.names_ascending.imp Text.lt_iff_bytes_lt.mp
  · intro event
    rw [through_append]
    exact keyed.names_perform event

/-- A standard name is given to another protocol, a standard protocol is replaced, two
registrations are refused, and a name outside ASCII is added. -/
def tangledHistory : List Event :=
  let files : FileSystem := { root := .directory true [] }
  [⟨files, .addAlias "FloatConvertible" "Absent"⟩,
    ⟨files, .register { name := "Sized", methods := [⟨"size", ["unit"], .int⟩] }⟩,
    ⟨files, .register { name := "Hollow" }⟩,
    ⟨files, .loadDirectory "protocols"⟩,
    ⟨files, .registerText "protocols: [{name: B, methods: [{name: b}]}, {name: B}]"⟩,
    ⟨files, .register { name := "Änderbar", methods := [⟨"ändern", [], .any⟩] }⟩]

/-- The name that was given away stands for its own protocol under every table, and a canonical name
is kept when a protocol of that name is refused once more. -/
theorem listing_invariants_tangled :
    let settings : Settings :=
      { allowRedeclaration := true, aliases := .ofList [("Sized", "IntConvertible")] }
    let lenient : Catalogue := { ofSettingsBase { allowRedeclaration := true } with
      aliases := standard.aliases.insertAll [("Sized", "IntConvertible")] }
    let reached := lenient.through tangledHistory
    let hollow : Event :=
      ⟨{ root := .directory true [] }, .register { name := "Änderbar" }⟩
    Built settings.aliases lenient ∧
      (∃ stored, stored.name = "FloatConvertible" ∧ ∀ table,
        { reached with aliases := table }.resolve "FloatConvertible" = some stored) ∧
      reached.names.length = 7 ∧
      "Änderbar" ∈ (lenient.through (tangledHistory ++ [hollow])).names := by
  intro settings lenient reached hollow
  have built : Built settings.aliases lenient :=
    .configured settings _ (List.Perm.refl _) (addAliases_eq_ok_iff.mpr ⟨by decide +kernel, rfl⟩)
  obtain ⟨-, -, size, listed, -, -, grows⟩ := listing_invariants built tangledHistory
  have float : "FloatConvertible" ∈ reached.names := by decide +kernel
  have added : "Änderbar" ∈ reached.names := by decide +kernel
  obtain ⟨stored, -, named, resolved⟩ := listed "FloatConvertible" float
  have seven : reached.size = 7 := by decide +kernel
  exact ⟨built, ⟨stored, named, resolved⟩, size.trans seven, grows hollow added⟩

end Covenant.Catalogue
