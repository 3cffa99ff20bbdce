import Mathlib.Data.List.Forall2
import Mathlib.Data.Option.Basic
import Covenant.Proofs.Document.Reading
import Covenant.Protocol.Document
import Covenant.Yaml.Value

/-!
# When two readings of a record agree

A record can be read from nodes, where references are followed, and from values. The two readings
agree when what both find is related, and when on top of that, where the record is written clearly,
neither finds anything unless the other does (`Agree`). What counts as clear is a parameter.
Agreement about the fields of a record is agreement about the record (`Agree.protocol`).
-/
namespace Covenant.Yaml

variable {α α' β β' ν ν' : Type} {clear : Prop} {related : α → α' → Prop}
  {further : β → β' → Prop}

/-- A reader of nodes and what is read from a value agree. -/
structure Agree (clear : Prop) (related : α → α' → Prop) (reader : Following Fault α)
    (answer : Except Fault α') : Prop where
  /-- What both find is related. -/
  related_of_ok : ∀ {left last : Nat} {found : α} {given : α'},
    reader.run left = .ok (found, last) → answer = .ok given → related found given
  /-- Where all is clear, both find something or neither does. -/
  ok_iff : clear → ∀ left : Nat,
    (∃ found last, reader.run left = .ok (found, last)) ↔ ∃ given, answer = .ok given

/-- A reader that goes on finds something exactly when both of its parts do. -/
theorem run_bind_eq_ok_iff {ε : Type} {reader : Following ε α} {next : α → Following ε β}
    {left last : Nat} {found : β} :
    (reader >>= next).run left = .ok (found, last) ↔
      ∃ middle between, reader.run left = .ok (middle, between) ∧
        (next middle).run between = .ok (found, last) := by
  rw [StateT.run_bind, Reading.bind_eq_ok_iff]
  exact ⟨fun ⟨(middle, between), answers⟩ => ⟨middle, between, answers⟩,
    fun ⟨middle, between, answers⟩ => ⟨(middle, between), answers⟩⟩

/-- A reader that reads nothing finds what it is given, and leaves the count as it is. -/
theorem run_pure_eq_ok_iff {ε : Type} {left last : Nat} {value found : α} :
    (pure value : Following ε α).run left = .ok (found, last) ↔ found = value ∧ last = left := by
  rw [StateT.run_pure]
  constructor
  · intro answer
    have same := Prod.mk.inj (Except.ok.inj answer)
    exact ⟨same.1.symm, same.2.symm⟩
  · rintro ⟨rfl, rfl⟩
    rfl

namespace Agree

/-- Two readings that read nothing agree about what is related. -/
protected theorem pure {value : α} {given : α'} (holds : related value given) :
    Agree clear related (pure value) (pure given) where
  related_of_ok := by
    intro left last found _ read answer
    obtain ⟨rfl, -⟩ := run_pure_eq_ok_iff.mp read
    exact Except.ok.inj answer ▸ holds
  ok_iff _ left := iff_of_true ⟨value, left, rfl⟩ ⟨given, rfl⟩

/-- Two refusals agree. -/
protected theorem throw {first second : Fault} :
    Agree clear related (throw first) (throw second) where
  related_of_ok := nofun
  ok_iff _ _ := iff_of_false nofun nofun

/-- Two readings that refuse agree. -/
theorem of_refusals {reader : Following Fault α} {answer : Except Fault α'}
    (first : ∃ fault, reader = throw fault) (second : ∃ fault, answer = .error fault) :
    Agree clear related reader answer := by
  obtain ⟨_, rfl⟩ := first
  obtain ⟨_, rfl⟩ := second
  exact .throw

/-- A refusal by the first reading alone is left to what is not clear. -/
theorem throw_of_unclear {fault : Fault} {answer : Except Fault α'} (unclear : ¬clear) :
    Agree clear related (throw fault) answer where
  related_of_ok := nofun
  ok_iff isClear := absurd isClear unclear

/-- A refusal by the second reading alone is left to what is not clear. -/
theorem error_of_unclear {reader : Following Fault α} {fault : Fault} (unclear : ¬clear) :
    Agree clear related reader (.error fault) where
  related_of_ok := nofun
  ok_iff isClear := absurd isClear unclear

/-- Readings that agree go on to agree if what follows does. -/
protected theorem bind {reader : Following Fault α} {answer : Except Fault α'}
    {next : α → Following Fault β} {next' : α' → Except Fault β'}
    (first : Agree clear related reader answer)
    (second : ∀ found given, related found given → Agree clear further (next found) (next' given)) :
    Agree clear further (reader >>= next) (answer >>= next') where
  related_of_ok := by
    intro left last found given read answered
    obtain ⟨middle, between, read_first, read_second⟩ := run_bind_eq_ok_iff.mp read
    obtain ⟨middle', answered_first, answered_second⟩ := Reading.bind_eq_ok_iff.mp answered
    have middles := first.related_of_ok read_first answered_first
    exact (second _ _ middles).related_of_ok read_second answered_second
  ok_iff isClear left := by
    constructor
    · rintro ⟨found, last, read⟩
      obtain ⟨middle, between, read_first, read_second⟩ := run_bind_eq_ok_iff.mp read
      obtain ⟨middle', answered⟩ := (first.ok_iff isClear left).mp ⟨_, _, read_first⟩
      have middles := first.related_of_ok read_first answered
      obtain ⟨given, answered_second⟩ :=
        ((second _ _ middles).ok_iff isClear between).mp ⟨_, _, read_second⟩
      exact ⟨given, Reading.bind_eq_ok_iff.mpr ⟨_, answered, answered_second⟩⟩
    · rintro ⟨given, answered⟩
      obtain ⟨middle', answered_first, answered_second⟩ := Reading.bind_eq_ok_iff.mp answered
      obtain ⟨middle, between, read⟩ := (first.ok_iff isClear left).mpr ⟨_, answered_first⟩
      have middles := first.related_of_ok read answered_first
      obtain ⟨found, last, read_second⟩ :=
        ((second _ _ middles).ok_iff isClear between).mpr ⟨_, answered_second⟩
      exact ⟨found, last, run_bind_eq_ok_iff.mpr ⟨_, _, read, read_second⟩⟩

/-- What is related is related more loosely. -/
theorem imp {looser : α → α' → Prop} {reader : Following Fault α} {answer : Except Fault α'}
    (agree : Agree clear related reader answer)
    (weaker : ∀ found given, related found given → looser found given) :
    Agree clear looser reader answer where
  related_of_ok read answered := weaker _ _ (agree.related_of_ok read answered)
  ok_iff := agree.ok_iff

/-- Lists are read alike if their items are. -/
protected theorem mapM {alike : ν → ν' → Prop} {items : List ν} {items' : List ν'}
    {read : ν → Following Fault α} {read' : ν' → Except Fault α'}
    (matched : List.Forall₂ alike items items')
    (each : ∀ item item', alike item item' → Agree clear related (read item) (read' item')) :
    Agree clear (List.Forall₂ related) (items.mapM read) (items'.mapM read') := by
  induction matched with
  | nil => exact .pure .nil
  | cons head _ ih =>
    rw [List.mapM_cons, List.mapM_cons]
    refine (each _ _ head).bind fun _ _ heads => ih.bind fun _ _ tails => ?_
    exact .pure (.cons heads tails)

/-- Related values that are equal may be read as equal ones. -/
theorem eq_of_forall₂ {reader : Following Fault (List α)} {answer : Except Fault (List α)}
    (agree : Agree clear (List.Forall₂ Eq) reader answer) : Agree clear Eq reader answer :=
  agree.imp fun _ _ same => List.forall₂_eq_eq_eq ▸ same

section Record

/-- Two tables have the same names in the same order, and what stands under a name is matched. -/
def Fields (alike : String → ν → ν' → Prop) : List (String × ν) → List (String × ν') → Prop :=
  List.Forall₂ fun entry entry' => entry.1 = entry'.1 ∧ alike entry.1 entry.2 entry'.2

variable {alike : String → ν → ν' → Prop} {entries : List (String × ν)}
  {entries' : List (String × ν')} {name : String}

/-- What stands under one name is matched. -/
theorem Fields.filter (fields : Fields alike entries entries') (name : String) :
    List.Forall₂ (fun entry entry' => alike name entry.2 entry'.2)
      (entries.filter (·.1 == name)) (entries'.filter (·.1 == name)) := by
  induction fields with
  | nil => exact .nil
  | @cons entry entry' _ _ head _ ih =>
    obtain ⟨names, matched⟩ := head
    rw [List.filter_cons, List.filter_cons, ← names]
    by_cases named : entry.1 = name
    · rw [if_pos (beq_iff_eq.mpr named), if_pos (beq_iff_eq.mpr named)]
      exact .cons (named ▸ matched) ih
    · rw [if_neg (beq_iff_eq.not.mpr named), if_neg (beq_iff_eq.not.mpr named)]
      exact ih

/-- The tables agree about a field. -/
theorem field? (fields : Fields alike entries entries') (name : String) :
    Agree clear (Option.Rel (alike name)) (Reading.field? entries name)
      (Reading.field? entries' name) := by
  have filtered := fields.filter name
  unfold Reading.field?
  revert filtered
  generalize entries.filter (·.1 == name) = named, entries'.filter (·.1 == name) = named'
  rintro (_ | ⟨head, _ | _⟩)
  · exact .pure .none
  · exact .pure (.some head)
  · exact .throw

/-- The tables agree about a field that has to be present. -/
theorem required {read : ν → Following Fault α} {read' : ν' → Except Fault α'}
    (fields : Fields alike entries entries')
    (each : ∀ value value', alike name value value' →
      Agree clear related (read value) (read' value')) :
    Agree clear related (Reading.required entries name read)
      (Reading.required entries' name read') := by
  refine (field? fields name).bind fun _ _ options => ?_
  cases options with
  | none => exact .throw
  | some matched => exact each _ _ matched

/-- The tables agree about a field that has a default. -/
theorem optional {read : ν → Following Fault α} {read' : ν' → Except Fault α'} {default : α}
    {default' : α'} (fields : Fields alike entries entries')
    (each : ∀ value value', alike name value value' →
      Agree clear related (read value) (read' value'))
    (defaults : related default default') :
    Agree clear related (Reading.optional entries name default read)
      (Reading.optional entries' name default' read') := by
  refine (field? fields name).bind fun _ _ options => ?_
  cases options with
  | none => exact .pure defaults
  | some matched => exact each _ _ matched

variable {reading : Reading (Following Fault) ν} {reading' : Reading (Except Fault) ν'} {value : ν}
  {value' : ν'}

/-- Lists are read alike if they have matched items, which are read alike. -/
theorem list {read : ν → Following Fault α} {read' : ν' → Except Fault α}
    {alike : ν → ν' → Prop}
    (items : Agree clear (List.Forall₂ alike) (reading.items value) (reading'.items value'))
    (each : ∀ item item', alike item item' → Agree clear Eq (read item) (read' item')) :
    Agree clear Eq (reading.list read value) (reading'.list read' value') :=
  items.bind fun _ _ matched => (Agree.mapM matched each).eq_of_forall₂

/-- Signatures are read alike if their fields are. -/
theorem signature
    (record : Agree clear (Fields alike) (reading.record ["name", "params", "returns"] value)
      (reading'.record ["name", "params", "returns"] value'))
    (name : ∀ node given, alike "name" node given →
      Agree clear Eq (reading.text node) (reading'.text given))
    (params : ∀ node given, alike "params" node given →
      Agree clear Eq (reading.list reading.text node) (reading'.list reading'.text given))
    (returns : ∀ node given, alike "returns" node given →
      Agree clear Eq (reading.returnKind node) (reading'.returnKind given)) :
    Agree clear Eq (reading.signature value) (reading'.signature value') := by
  refine record.bind fun _ _ fields => ?_
  refine (required fields name).bind fun _ _ names => ?_
  refine (optional fields params rfl).bind fun _ _ paramLists => ?_
  refine (optional fields returns rfl).bind fun _ _ kinds => ?_
  exact .pure (names ▸ paramLists ▸ kinds ▸ rfl)

/-- Protocols are read alike if their fields are. -/
theorem protocol
    (record : Agree clear (Fields alike)
      (reading.record ["name", "aliases", "description", "origin", "methods"] value)
      (reading'.record ["name", "aliases", "description", "origin", "methods"] value'))
    (name : ∀ node given, alike "name" node given →
      Agree clear Eq (reading.text node) (reading'.text given))
    (aliases : ∀ node given, alike "aliases" node given →
      Agree clear Eq (reading.list reading.text node) (reading'.list reading'.text given))
    (description : ∀ node given, alike "description" node given →
      Agree clear Eq (reading.text node) (reading'.text given))
    (origin : ∀ node given, alike "origin" node given →
      Agree clear Eq (reading.origin node) (reading'.origin given))
    (methods : ∀ node given, alike "methods" node given →
      Agree clear Eq (reading.list reading.signature node)
        (reading'.list reading'.signature given)) :
    Agree clear Eq (reading.protocol value) (reading'.protocol value') := by
  refine record.bind fun _ _ fields => ?_
  refine (required fields name).bind fun _ _ names => ?_
  refine (optional fields aliases rfl).bind fun _ _ aliasLists => ?_
  refine (optional fields description rfl).bind fun _ _ descriptions => ?_
  refine (optional fields origin rfl).bind fun _ _ origins => ?_
  refine (required fields methods).bind fun _ _ methodLists => ?_
  exact .pure (names ▸ aliasLists ▸ descriptions ▸ origins ▸ methodLists ▸ rfl)

end Record

end Agree

end Covenant.Yaml
