import Covenant.Catalogue.Documents
import Covenant.Proofs.Protocol.WellFormed

/-!
# What validation says

Validation passes well-formed protocols and no others (`Protocol.WellFormed`). Of any other it says
what is wrong with its name, with its methods as a whole, or with the first method at fault, in this
order (`Protocol.FailsWith`); so it says one thing about each. Only names count, and whether a
protocol passes does not depend on their order (`Protocol.validate_exact`).
-/
namespace Covenant

namespace Signature

/-- A method is at fault after methods of some names when its name is blank or one of those. -/
def AtFault (known : List String) (method : Signature) : Prop :=
  Text.isBlank method.name = true ∨ method.name ∈ known

instance (known : List String) (method : Signature) : Decidable (method.AtFault known) :=
  inferInstanceAs (Decidable (_ ∨ _))

/-- What is wrong with a method at fault. -/
def faultIn (protocol : String) (method : Signature) : ProtocolFault :=
  if Text.isBlank method.name then .blankMethod protocol
  else .repeatedMethod protocol method.name

/-- The order of the known names does not count. -/
theorem atFault_congr {known known' : List String} {method : Signature}
    (same : ∀ name, name ∈ known ↔ name ∈ known') :
    method.AtFault known ↔ method.AtFault known' :=
  or_congr_right (same method.name)

end Signature

namespace Protocol

variable {protocol : Protocol} {known : List String} {first method : Signature}
  {methods rest : List Signature} {position : Nat} {fault : ProtocolFault}

/-- The first method at fault after methods of known names, with its position: those at earlier
positions are not at fault after the known ones and one another. -/
structure FirstAtFault (known : List String) (methods : List Signature) (position : Nat)
    (method : Signature) : Prop where
  /-- Where the method is. -/
  place : methods[position]? = some method
  /-- It is at fault. -/
  at_fault : method.AtFault (known ++ (methods.take position).map (·.name))
  /-- None before it is. -/
  first : ∀ earlier < position, ∀ other, methods[earlier]? = some other →
    ¬other.AtFault (known ++ (methods.take earlier).map (·.name))

/-- What is wrong with a protocol, and how that is put: its name counts first, then a lack of
methods, then the first method at fault, of which a blank name counts before a repeated one. -/
inductive FailsWith (protocol : Protocol) : ProtocolFault → String → Prop
  /-- The name is blank. -/
  | unnamed (blank : Text.isBlank protocol.name = true) :
      FailsWith protocol .blankName "protocol name must not be empty"
  /-- No method is required. -/
  | bare (named : Text.isBlank protocol.name = false) (bare : protocol.methods = []) :
      FailsWith protocol (.noMethods protocol.name)
        ("protocol " ++ protocol.name ++ " declares no methods")
  /-- The first method at fault has a blank name. -/
  | unnamedMethod (named : Text.isBlank protocol.name = false) {position : Nat} {method : Signature}
      (first : FirstAtFault [] protocol.methods position method)
      (blank : Text.isBlank method.name = true) :
      FailsWith protocol (.blankMethod protocol.name)
        ("protocol " ++ protocol.name ++ " has a method with an empty name")
  /-- The first method at fault has the name of an earlier one. -/
  | repeatedMethod (named : Text.isBlank protocol.name = false) {position : Nat}
      {method : Signature} (first : FirstAtFault [] protocol.methods position method)
      (method_named : Text.isBlank method.name = false) :
      FailsWith protocol (.repeatedMethod protocol.name method.name)
        ("protocol " ++ protocol.name ++ " declares method " ++ method.name ++ " more than once")

/-! ### The first method at fault -/

/-- After a first method, its name is known. -/
theorem atFault_take_cons :
    method.AtFault (known ++ ((first :: rest).take (position + 1)).map (·.name)) ↔
      method.AtFault (first.name :: known ++ (rest.take position).map (·.name)) := by
  apply Signature.atFault_congr
  intro name
  rw [List.take_succ_cons, List.map_cons]
  simp only [List.mem_append, List.mem_cons]
  exact or_left_comm.trans or_assoc.symm

/-- The first method at fault is the first of all exactly if that one is at fault. -/
theorem firstAtFault_zero : FirstAtFault known (first :: rest) 0 method ↔
    first = method ∧ first.AtFault known := by
  constructor
  · rintro ⟨place, at_fault, -⟩
    obtain rfl : first = method := Option.some.inj place
    exact ⟨rfl, by simpa using at_fault⟩
  · rintro ⟨rfl, at_fault⟩
    exact ⟨rfl, by simpa using at_fault, fun _ impossible => absurd impossible (Nat.not_lt_zero _)⟩

/-- The first method at fault is a later one exactly if the first of all is not at fault and it is
the first among the others, which come after that one. -/
theorem firstAtFault_succ : FirstAtFault known (first :: rest) (position + 1) method ↔
    ¬first.AtFault known ∧ FirstAtFault (first.name :: known) rest position method := by
  constructor
  · rintro ⟨place, at_fault, before⟩
    refine ⟨?_, place, atFault_take_cons.mp at_fault, fun earlier below other found => ?_⟩
    · simpa using before 0 (Nat.succ_pos position) first rfl
    · rw [← atFault_take_cons]
      exact before (earlier + 1) (Nat.succ_lt_succ below) other found
  · rintro ⟨sound, place, at_fault, before⟩
    refine ⟨place, atFault_take_cons.mpr at_fault, fun earlier below other found => ?_⟩
    cases earlier with
    | zero =>
      obtain rfl : first = other := Option.some.inj found
      simpa using sound
    | succ earlier =>
      rw [atFault_take_cons]
      exact before earlier (Nat.lt_of_succ_lt_succ below) other found

/-- A method at fault is what the search finds first. -/
theorem methodFault?_of_atFault (name : String) (at_fault : first.AtFault known) :
    methodFault? name known (first :: rest) = some (first.faultIn name) := by
  unfold methodFault? Signature.faultIn
  by_cases blank : Text.isBlank first.name = true
  · rw [if_pos blank, if_pos blank]
  · have repeated : known.contains first.name = true :=
      List.contains_iff_mem.mpr (at_fault.resolve_left blank)
    rw [if_neg blank, if_neg blank, if_pos repeated]

/-- The search goes on after a method that is not at fault. -/
theorem methodFault?_of_not_atFault (name : String) (sound : ¬first.AtFault known) :
    methodFault? name known (first :: rest) = methodFault? name (first.name :: known) rest := by
  obtain ⟨named, fresh⟩ := not_or.mp sound
  rw [methodFault?, if_neg named, if_neg (by simpa using fresh)]

/-- The search among methods finds what is wrong with the first one at fault. -/
theorem methodFault?_eq_some_iff {name : String} : methodFault? name known methods = some fault ↔
    ∃ position method, FirstAtFault known methods position method ∧
      method.faultIn name = fault := by
  induction methods generalizing known with
  | nil =>
    constructor
    · intro found
      rw [methodFault?] at found
      cases found
    · rintro ⟨position, method, ⟨place, -, -⟩, -⟩
      cases place
  | cons first rest ih =>
    by_cases at_fault : first.AtFault known
    · rw [methodFault?_of_atFault name at_fault, Option.some.injEq]
      constructor
      · intro found
        exact ⟨0, first, firstAtFault_zero.mpr ⟨rfl, at_fault⟩, found⟩
      · rintro ⟨position, method, found, rfl⟩
        cases position with
        | zero => rw [(firstAtFault_zero.mp found).1]
        | succ position => exact absurd at_fault (firstAtFault_succ.mp found).1
    · rw [methodFault?_of_not_atFault name at_fault, ih]
      constructor
      · rintro ⟨position, method, found, wrong⟩
        exact ⟨position + 1, method, firstAtFault_succ.mpr ⟨at_fault, found⟩, wrong⟩
      · rintro ⟨position, method, found, wrong⟩
        cases position with
        | zero => exact absurd (firstAtFault_zero.mp found).2 at_fault
        | succ position => exact ⟨position, method, (firstAtFault_succ.mp found).2, wrong⟩

/-- Only the names of methods count for what is wrong with them. -/
theorem methodFault?_congr (name : String) {methods' : List Signature}
    (same : methods.map (·.name) = methods'.map (·.name)) :
    methodFault? name known methods = methodFault? name known methods' := by
  induction methods generalizing known methods' with
  | nil =>
    rw [List.map_nil, eq_comm, List.map_eq_nil_iff] at same
    rw [same]
  | cons first rest ih =>
    obtain ⟨first', rest', rfl, named, others⟩ := List.map_eq_cons_iff.mp same.symm
    unfold methodFault?
    rw [named, ih others.symm]

/-! ### All that may be wrong -/

/-- A protocol with a name and methods is as sound as its methods. -/
theorem fault?_of_requires (named : Text.isBlank protocol.name = false)
    (requires : protocol.methods ≠ []) :
    protocol.fault? = methodFault? protocol.name [] protocol.methods := by
  rw [fault?, if_neg (Bool.eq_false_iff.mp named), if_neg (by simpa using requires)]

/-- Where a method is at fault, methods are required. -/
theorem FirstAtFault.ne_nil (found : FirstAtFault known methods position method) :
    methods ≠ [] := by
  rintro rfl
  cases found.place

/-- How a fault is put is its wording. -/
theorem FailsWith.message_eq {wording : String} (fails : protocol.FailsWith fault wording) :
    fault.message = wording := by
  cases fails <;> rfl

/-- What is wrong with a protocol is the fault that is found. -/
theorem FailsWith.fault?_eq {wording : String} (fails : protocol.FailsWith fault wording) :
    protocol.fault? = some fault := by
  cases fails with
  | unnamed blank => rw [fault?, if_pos blank]
  | bare named bare =>
    rw [fault?, if_neg (Bool.eq_false_iff.mp named), if_pos (List.isEmpty_iff.mpr bare)]
  | unnamedMethod named first blank =>
    rw [fault?_of_requires named first.ne_nil, methodFault?_eq_some_iff]
    exact ⟨_, _, first, if_pos blank⟩
  | repeatedMethod named first method_named =>
    rw [fault?_of_requires named first.ne_nil, methodFault?_eq_some_iff]
    exact ⟨_, _, first, if_neg (Bool.eq_false_iff.mp method_named)⟩

/-- The fault that is found is what is wrong with a protocol. -/
theorem exists_failsWith (found : protocol.fault? = some fault) :
    ∃ wording, protocol.FailsWith fault wording := by
  by_cases blank : Text.isBlank protocol.name = true
  · rw [fault?, if_pos blank] at found
    obtain rfl := Option.some.inj found
    exact ⟨_, .unnamed blank⟩
  · have named := Bool.eq_false_iff.mpr blank
    by_cases bare : protocol.methods = []
    · rw [fault?, if_neg blank, if_pos (List.isEmpty_iff.mpr bare)] at found
      obtain rfl := Option.some.inj found
      exact ⟨_, .bare named bare⟩
    · rw [fault?_of_requires named bare, methodFault?_eq_some_iff] at found
      obtain ⟨position, method, first, rfl⟩ := found
      by_cases unnamed : Text.isBlank method.name = true
      · rw [Signature.faultIn, if_pos unnamed]
        exact ⟨_, .unnamedMethod named first unnamed⟩
      · rw [Signature.faultIn, if_neg unnamed]
        exact ⟨_, .repeatedMethod named first (Bool.eq_false_iff.mpr unnamed)⟩

/-- Only names count for what is wrong with a protocol. -/
theorem fault?_congr {other : Protocol} (named : other.name = protocol.name)
    (names : other.methods.map (·.name) = protocol.methods.map (·.name)) :
    other.fault? = protocol.fault? := by
  have bare : other.methods.isEmpty = protocol.methods.isEmpty := by
    rw [← List.isEmpty_map (f := (·.name)), names, List.isEmpty_map]
  rw [fault?, fault?, named, bare, methodFault?_congr protocol.name names]

/-! ### Validation -/

/-- A protocol passes as it is exactly when nothing is wrong with it. -/
theorem validate_eq_ok_iff : protocol.validate = .ok protocol ↔ protocol.fault? = none := by
  unfold validate
  cases protocol.fault? <;> simp

/-- What passes is the protocol as it is. -/
theorem eq_of_validate {passed : Protocol} (valid : protocol.validate = .ok passed) :
    passed = protocol := by
  unfold validate at valid
  split at valid
  · cases valid
  · exact (Except.ok.inj valid).symm

/-- A protocol is refused exactly for the fault that is found. -/
theorem validate_eq_error_iff {error : CatalogueError} : protocol.validate = .error error ↔
    ∃ fault, protocol.fault? = some fault ∧ error = .invalid (.protocol fault) := by
  unfold validate
  cases protocol.fault? <;> simp [eq_comm]

/-- Validation passes exactly the well-formed protocols, in which a method is known by its name. It
refuses any other for the first thing that is wrong with it, and says so. Whether a protocol passes
depends on its name and the names of its methods in any order; what is wrong with it depends on
these names in their order. -/
theorem validate_exact (protocol : Protocol) :
    (∀ passed, protocol.validate = .ok passed ↔ passed = protocol ∧ protocol.WellFormed) ∧
      (protocol.WellFormed → ∀ name method, protocol.method? name = some method ↔
        method ∈ protocol.methods ∧ method.name = name) ∧
      (∀ error, protocol.validate = .error error ↔
        ∃ fault wording, protocol.FailsWith fault wording ∧
          error = .invalid (.protocol fault) ∧
            error.message = "Validation error: " ++ wording) ∧
      (∀ other : Protocol, other.name = protocol.name →
        (other.methods.map (·.name)).Perm (protocol.methods.map (·.name)) →
          (other.validate = .ok other ↔ protocol.validate = .ok protocol)) ∧
      ∀ other : Protocol, other.name = protocol.name →
        other.methods.map (·.name) = protocol.methods.map (·.name) →
          ∀ error, other.validate = .error error ↔ protocol.validate = .error error := by
  have passes (protocol : Protocol) :
      protocol.validate = .ok protocol ↔ protocol.WellFormed :=
    validate_eq_ok_iff.trans fault?_eq_none_iff_wellFormed
  refine ⟨fun passed => ?_, fun sound _ _ => sound.method?_eq_some_iff, fun error => ?_,
    fun other named names => ?_, fun other named names error => ?_⟩
  · rw [← passes]
    constructor
    · intro valid
      obtain rfl := eq_of_validate valid
      exact ⟨rfl, valid⟩
    · rintro ⟨rfl, valid⟩
      exact valid
  · rw [validate_eq_error_iff]
    constructor
    · rintro ⟨fault, found, rfl⟩
      obtain ⟨wording, fails⟩ := exists_failsWith found
      refine ⟨fault, wording, fails, rfl, ?_⟩
      rw [← fails.message_eq]
      rfl
    · rintro ⟨fault, wording, fails, rfl, -⟩
      exact ⟨fault, fails.fault?_eq, rfl⟩
  · rw [passes, passes]
    exact ⟨fun sound => sound.of_perm named.symm names.symm,
      fun sound => sound.of_perm named names⟩
  · rw [validate_eq_error_iff, validate_eq_error_iff, fault?_congr named names]

/-- A protocol with three methods passes, and so does one that differs from it in all but the names,
which come in another order. With two methods at fault the one at the earlier position counts: a
name that is repeated before one that is an ideographic space. -/
theorem validate_exact_faulty :
    let protocol : Protocol :=
      { name := "Table"
        methods := [⟨"get", ["key"], .int⟩, ⟨"put", [], .any⟩, ⟨"size", [], .int⟩] }
    let other : Protocol :=
      { name := "Table"
        aliases := ["Map", "Map"]
        description := "Keeps values"
        origin := .standard
        methods := [⟨"size", ["deep"], .bool⟩, ⟨"get", [], .named "Value"⟩,
          ⟨"put", ["key"], .any⟩] }
    let faulty : Protocol :=
      { name := "Table"
        methods := [⟨"get", ["key"], .int⟩, ⟨"put", [], .any⟩, ⟨"get", [], .any⟩,
          ⟨"\u3000", [], .any⟩] }
    let loosened : Protocol :=
      { faulty with methods := faulty.methods.map ({ · with params := [] }) }
    protocol.WellFormed ∧ protocol.method? "put" = some ⟨"put", [], .any⟩ ∧
      other.name = protocol.name ∧
      (other.methods.map (·.name)).Perm (protocol.methods.map (·.name)) ∧
      other.validate = .ok other ∧
      faulty.FailsWith (.repeatedMethod "Table" "get")
        "protocol Table declares method get more than once" ∧
      faulty.validate = .error (.invalid (.protocol (.repeatedMethod "Table" "get"))) ∧
      loosened.validate = faulty.validate := by
  intro protocol other faulty loosened
  obtain ⟨passes, methods, -, reordered, -⟩ := validate_exact protocol
  obtain ⟨-, -, refused, -, restated⟩ := validate_exact faulty
  have valid : protocol.validate = .ok protocol := validate_eq_ok_iff.mpr (by decide)
  have sound : protocol.WellFormed := ((passes protocol).mp valid).2
  have names : (other.methods.map (·.name)).Perm (protocol.methods.map (·.name)) := by decide
  have first : FirstAtFault [] faulty.methods 2 ⟨"get", [], .any⟩ :=
    firstAtFault_succ.mpr ⟨by decide, firstAtFault_succ.mpr ⟨by decide,
      firstAtFault_zero.mpr ⟨rfl, by decide⟩⟩⟩
  have fails : faulty.FailsWith (.repeatedMethod "Table" "get")
      "protocol Table declares method get more than once" :=
    .repeatedMethod (by decide) first (by decide)
  have error := (refused _).mpr ⟨_, _, fails, rfl, rfl⟩
  refine ⟨sound, (methods sound "put" _).mpr (by decide), rfl, names,
    (reordered other rfl names).mpr valid, fails, error, ?_⟩
  rw [error]
  exact (restated loosened rfl rfl _).mpr error

end Protocol

end Covenant
