import Covenant.Catalogue.Check
import Covenant.Proofs.Catalogue.History

/-!
# Answers of a check

A surface is checked in two ways: against the protocol that a name stands for, and against every
stored protocol in turn. Both go by the same mismatches, so they agree as long as a name only
stands for stored protocols and each of these is found under its own name
(`Catalogue.check_agrees_with_resolve`). That holds whatever the table of aliases leads to.
-/
namespace Covenant.Catalogue

variable {catalogue : Catalogue} {surface : Surface} {name : String} {protocol : Protocol}

/-! ## What a name stands for is stored -/

/-- A name stands for what is stored under some name. -/
theorem stored_of_resolve (resolved : catalogue.resolve name = some protocol) :
    ∃ canonical, catalogue.protocols.find? canonical = some protocol := by
  cases canonical : catalogue.protocols.find? name with
  | some stored =>
    rw [resolve_of_stored canonical] at resolved
    exact ⟨name, canonical.trans resolved⟩
  | none =>
    rw [resolve_of_absent canonical] at resolved
    obtain ⟨target, _, looked⟩ := Option.bind_eq_some_iff.mp resolved
    exact ⟨target, looked⟩

/-- A name stands for a listed protocol. -/
theorem mem_list_of_resolve (resolved : catalogue.resolve name = some protocol) :
    protocol ∈ catalogue.list :=
  NameMap.mem_values.mpr (stored_of_resolve resolved)

/-- The canonical name of what a name stands for stands for the same protocol. -/
theorem Keyed.resolve_name (keyed : catalogue.Keyed)
    (resolved : catalogue.resolve name = some protocol) :
    catalogue.resolve protocol.name = some protocol :=
  resolve_of_stored (keyed.mem_list.mp (mem_list_of_resolve resolved))

/-! ## The entry points -/

/-- Diagnosing answers with the mismatches of the protocol that the name stands for. -/
theorem diagnose_of_resolve (resolved : catalogue.resolve name = some protocol) :
    catalogue.diagnose surface name = .ok (mismatches protocol surface) := by
  unfold diagnose
  rw [resolved]

/-- Diagnosing fails exactly when the name stands for nothing, and says so. -/
theorem diagnose_eq_error_iff {error : ConformanceError} :
    catalogue.diagnose surface name = .error error ↔
      error = .unknownProtocol name ∧ catalogue.resolve name = none := by
  unfold diagnose
  cases catalogue.resolve name with
  | some protocol => simp
  | none => simp [eq_comm]

/-- A check passes if diagnosing finds nothing, and else carries what it finds. -/
theorem check_of_diagnose {found : List Mismatch}
    (diagnosed : catalogue.diagnose surface name = .ok found) :
    catalogue.check surface name =
      if found = [] then .ok () else .error (.notConforming surface.name name found) := by
  unfold check
  rw [diagnosed]
  cases found <;> rfl

/-- A check fails where diagnosing fails. -/
theorem check_of_error {error : ConformanceError}
    (refused : catalogue.diagnose surface name = .error error) :
    catalogue.check surface name = .error error := by
  unfold check
  rw [refused]

/-- A surface passes a check exactly when diagnosing finds nothing. -/
theorem check_eq_ok_iff :
    catalogue.check surface name = .ok () ↔ catalogue.diagnose surface name = .ok [] := by
  cases diagnosed : catalogue.diagnose surface name with
  | ok found =>
    rw [check_of_diagnose diagnosed, Except.ok.injEq]
    split <;> simp_all
  | error error => simp [check_of_error diagnosed]

/-- A check fails for want of a protocol exactly when the name stands for none. -/
theorem check_eq_unknown_iff :
    catalogue.check surface name = .error (.unknownProtocol name) ↔
      catalogue.resolve name = none := by
  cases resolved : catalogue.resolve name with
  | some protocol =>
    rw [check_of_diagnose (diagnose_of_resolve resolved)]
    split <;> simp
  | none => simp [check_of_error (diagnose_eq_error_iff.mpr ⟨rfl, resolved⟩)]

/-- A surface conforms to a name exactly when it stands for a protocol without mismatches. -/
theorem conforms_iff : catalogue.conforms surface name = true ↔
    ∃ protocol, catalogue.resolve name = some protocol ∧ mismatches protocol surface = [] := by
  have passes : catalogue.conforms surface name = true ↔
      catalogue.check surface name = .ok () := by
    unfold conforms
    cases catalogue.check surface name with
    | error error => simp [Except.toBool]
    | ok _ => simp [Except.toBool]
  rw [passes, check_eq_ok_iff]
  cases resolved : catalogue.resolve name with
  | none => simp [diagnose_eq_error_iff.mpr ⟨rfl, resolved⟩]
  | some protocol => simp [diagnose_of_resolve resolved]

/-- The satisfied protocols are the listed ones without mismatches. -/
theorem mem_satisfiedBy : protocol ∈ catalogue.satisfiedBy surface ↔
    protocol ∈ catalogue.list ∧ mismatches protocol surface = [] := by
  rw [satisfiedBy, List.mem_filter, List.isEmpty_iff]

/-- A surface conforms to a name exactly when the protocol that it stands for is satisfied. -/
theorem conforms_iff_satisfied : catalogue.conforms surface name = true ↔
    ∃ protocol ∈ catalogue.satisfiedBy surface, catalogue.resolve name = some protocol := by
  rw [conforms_iff]
  constructor
  · rintro ⟨protocol, resolved, clear⟩
    exact ⟨protocol, mem_satisfiedBy.mpr ⟨mem_list_of_resolve resolved, clear⟩, resolved⟩
  · rintro ⟨protocol, satisfied, resolved⟩
    exact ⟨protocol, resolved, (mem_satisfiedBy.mp satisfied).2⟩

/-- After any history the ways to check a surface agree with each other and with look-ups.
Diagnosing and checking fail for want of a protocol exactly when the name stands for none. A check
passes exactly when diagnosing finds nothing, and else carries what it finds. A surface conforms to
a name exactly when the protocol that the name stands for is among the satisfied ones, whose names
ascend; and so it conforms to a name as to the canonical name behind it. -/
theorem check_agrees_with_resolve {given : NameMap String} {start : Catalogue}
    (built : Built given start) (history : List Event) (surface : Surface) :
    (∀ name,
      (∀ error, (start.through history).diagnose surface name = .error error ↔
        error = .unknownProtocol name ∧ (start.through history).resolve name = none) ∧
      ((start.through history).check surface name = .error (.unknownProtocol name) ↔
        (start.through history).resolve name = none) ∧
      ((start.through history).check surface name = .ok () ↔
        (start.through history).diagnose surface name = .ok []) ∧
      (∀ found, found ≠ [] → (start.through history).diagnose surface name = .ok found →
        (start.through history).check surface name =
          .error (.notConforming surface.name name found)) ∧
      ((start.through history).conforms surface name = true ↔
        ∃ protocol ∈ (start.through history).satisfiedBy surface,
          (start.through history).resolve name = some protocol)) ∧
    ((start.through history).satisfiedBy surface).Pairwise
      (fun earlier later => earlier.name < later.name) ∧
    ∀ name protocol, (start.through history).resolve name = some protocol →
      (start.through history).conforms surface name =
        (start.through history).conforms surface protocol.name := by
  have keyed := built.keyed.through history
  refine ⟨fun name => ⟨fun error => diagnose_eq_error_iff, check_eq_unknown_iff, check_eq_ok_iff,
    ?_, conforms_iff_satisfied⟩, keyed.list_ascending.filter _, ?_⟩
  · intro found some_found diagnosed
    rw [check_of_diagnose diagnosed, if_neg some_found]
  · intro name protocol resolved
    rw [Bool.eq_iff_iff, conforms_iff, conforms_iff, resolved, keyed.resolve_name resolved]

/-- One alias of the standard catalogue is hidden behind a canonical name, one leads nowhere, and
one is given to another protocol. -/
def misleadingHistory : List Event :=
  let files : FileSystem := { root := .directory true [] }
  [⟨files, .addAlias "Sized" "IntConvertible"⟩, ⟨files, .addAlias "SupportsLen" "Absent"⟩,
    ⟨files, .addAlias "SupportsInt" "Sized"⟩]

/-- A surface with a size conforms to the alias that was given away as to the protocol that has it
now, and fails against the alias that leads nowhere. -/
theorem check_agrees_with_resolve_misleading :
    let reached := standard.through misleadingHistory
    let surface : Surface := { name := "Bag", methods := [⟨"size", [], .int⟩] }
    Built .empty standard ∧
      reached.conforms surface "SupportsInt" = reached.conforms surface "Sized" ∧
      reached.conforms surface "SupportsInt" = true ∧
      reached.check surface "SupportsLen" = .error (.unknownProtocol "SupportsLen") ∧
      reached.check surface "IntConvertible" =
        .error (.notConforming "Bag" "IntConvertible" [.missing "to_int"]) := by
  intro reached surface
  obtain ⟨answers, _, canonical⟩ :=
    check_agrees_with_resolve .standard misleadingHistory surface
  have sized : ∃ protocol, reached.resolve "SupportsInt" = some protocol ∧
      protocol.name = "Sized" ∧ protocol ∈ reached.satisfiedBy surface :=
    ⟨{ name := "Sized", aliases := ["SizeQueryable", "SupportsLen"]
       description := "Reports its element count", origin := .standard
       methods := [⟨"size", [], .int⟩] }, by decide +kernel, rfl, by decide +kernel⟩
  obtain ⟨protocol, resolved, named, satisfied⟩ := sized
  refine ⟨.standard, named ▸ canonical "SupportsInt" protocol resolved, ?_, ?_, ?_⟩
  · exact (answers "SupportsInt").2.2.2.2.mpr ⟨protocol, satisfied, resolved⟩
  · exact (answers "SupportsLen").2.1.mpr (by decide +kernel)
  · apply (answers "IntConvertible").2.2.2.1 _ (by decide)
    rfl

end Covenant.Catalogue
