import Mathlib.Data.List.Basic
import Covenant.Json.Document
import Covenant.Proofs.Document.Reading
import Covenant.Proofs.NameMap

/-!
# Decoding undoes encoding

A record that is encoded as JSON is decoded as it was (`decode_encode`), whatever texts, lists and
kinds it holds. The same is decoded from every restatement of the encoded record
(`Json.Layout.Restates`): fields that hold their default may be left out, and members of unknown
names may be there besides, both in the record and in the signatures inside it. A record that lacks
a field without a default is not decoded at all.
-/
namespace Covenant

/-! ## Fields of an object -/

namespace Json

/-- The fields of a record: those that have to be present, and the defaults of the others. -/
structure Layout where
  /-- Names of the fields that have no default. -/
  required : List String
  /-- The other fields with their defaults. -/
  defaults : List (String × Json)
  /-- No two fields have one name. -/
  distinct : (required ++ defaults.map (·.1)).Nodup := by decide

namespace Layout

/-- The names of all fields. -/
def fields (layout : Layout) : List String := layout.required ++ layout.defaults.map (·.1)

/-- Members that say what the full members of a record say. Some of those that hold a default may
be left out, some of unknown names may be added, and the order is free. -/
def Restates (layout : Layout) (full members : List (String × Json)) : Prop :=
  ∃ kept added : List (String × Json),
    kept.Sublist full ∧ (∀ member ∈ full, member ∉ kept → member ∈ layout.defaults) ∧
      (∀ member ∈ added, member.1 ∉ layout.fields) ∧ members.Perm (kept ++ added)

/-- The full members say what they say. -/
theorem Restates.refl (layout : Layout) (full : List (String × Json)) :
    layout.Restates full full :=
  ⟨full, [], .refl full, fun member listed missing => absurd listed missing, nofun, by simp⟩

end Layout

/-- No member has a name. -/
def Lacks (members : List (String × Json)) (name : String) : Prop :=
  ∀ value, (name, value) ∉ members

variable {layout : Layout} {full members : List (String × Json)} {name : String} {value : Json}
  {α : Type} {read : Json → Except Fault α}

/-- Members of different names have one of each name that is there. -/
theorem filter_eq_singleton (distinct : (full.map (·.1)).Nodup)
    (listed : (name, value) ∈ full) : full.filter (·.1 == name) = [(name, value)] := by
  induction full with
  | nil => cases listed
  | cons head rest ih =>
    obtain ⟨fresh, others⟩ := List.nodup_cons.mp distinct
    rcases List.mem_cons.mp listed with rfl | later
    · have none_later : rest.filter (·.1 == name) = [] := by
        refine List.filter_eq_nil_iff.mpr fun member found same => fresh ?_
        exact List.mem_map.mpr ⟨member, found, eq_of_beq same⟩
      rw [List.filter_cons_of_pos (by simp), none_later]
    · have other : head.1 ≠ name := by
        rintro rfl
        exact fresh (List.mem_map.mpr ⟨_, later, rfl⟩)
      rw [List.filter_cons_of_neg (by simpa using other), ih others later]

/-- In a restatement a field has its value, or it is left out and the value is its default. -/
theorem Layout.Restates.field? (restates : layout.Restates full members)
    (distinct : (full.map (·.1)).Nodup) (listed : (name, value) ∈ full)
    (known : name ∈ layout.fields) :
    (Reading.field? members name : Except Fault (Option Json)) = .ok (some value) ∨
      (Reading.field? members name : Except Fault (Option Json)) = .ok none ∧
        (name, value) ∈ layout.defaults := by
  obtain ⟨kept, added, sub, left_out, unknown, order⟩ := restates
  have none_added : added.filter (·.1 == name) = [] := by
    refine List.filter_eq_nil_iff.mpr fun member found same => unknown member found ?_
    rwa [eq_of_beq same]
  have found : (members.filter (·.1 == name)).Perm (kept.filter (·.1 == name)) := by
    simpa [none_added] using order.filter (·.1 == name)
  have below : (kept.filter (·.1 == name)).Sublist [(name, value)] :=
    filter_eq_singleton distinct listed ▸ sub.filter _
  unfold Reading.field?
  rcases List.sublist_singleton.mp below with nothing | one
  · right
    rw [nothing] at found
    rw [found.eq_nil]
    refine ⟨rfl, left_out _ listed fun member => ?_⟩
    have : (name, value) ∈ kept.filter (·.1 == name) :=
      List.mem_filter.mpr ⟨member, beq_self_eq_true name⟩
    rw [nothing] at this
    cases this
  · left
    rw [one] at found
    rw [found.eq_singleton]
    rfl

/-- A field without a default is read from its value. -/
theorem Layout.Restates.required {result : α} (restates : layout.Restates full members)
    (distinct : (full.map (·.1)).Nodup) (reads : read value = .ok result)
    (listed : (name, value) ∈ full) (known : name ∈ layout.required) :
    Reading.required members name read = .ok result := by
  have apart := (List.nodup_append.mp layout.distinct).2.2
  rcases restates.field? distinct listed (List.mem_append_left _ known) with found | ⟨-, default⟩
  · unfold Reading.required
    rw [found, ← reads]
    rfl
  · exact absurd rfl (apart name known name (List.mem_map.mpr ⟨_, default, rfl⟩))

/-- A field with a default is read from its value, also where it is left out. -/
theorem Layout.Restates.optional {default result : α} {standing : Json}
    (restates : layout.Restates full members) (distinct : (full.map (·.1)).Nodup)
    (reads : read value = .ok result) (reads_default : read standing = .ok default)
    (listed : (name, value) ∈ full) (known : (name, standing) ∈ layout.defaults) :
    Reading.optional members name default read = .ok result := by
  have named : name ∈ layout.defaults.map (·.1) := List.mem_map.mpr ⟨_, known, rfl⟩
  have one := filter_eq_singleton (List.nodup_append.mp layout.distinct).2.1 known
  unfold Reading.optional
  rcases restates.field? distinct listed (List.mem_append_right _ named) with
    found | ⟨absent, is_default⟩
  · rw [found, ← reads]
    rfl
  · have same : (name, value) ∈ layout.defaults.filter (·.1 == name) :=
      List.mem_filter.mpr ⟨is_default, beq_self_eq_true name⟩
    rw [one, List.mem_singleton, Prod.mk.injEq] at same
    rw [absent, ← reads, same.2, reads_default]
    rfl

/-- A record that lacks a field without a default is not read. -/
theorem required_of_lacks (lacks : Lacks members name) :
    Reading.required members name read = .error (.missingField name) := by
  have nothing : members.filter (·.1 == name) = [] := by
    refine List.filter_eq_nil_iff.mpr fun member found same => lacks member.2 ?_
    rwa [← eq_of_beq same]
  unfold Reading.required Reading.field?
  rw [nothing]
  rfl

/-- A field whose name a member has is found with its value, unless the name occurs again. -/
theorem field?_of_mem (listed : (name, value) ∈ members) :
    (Reading.field? members name : Except Fault (Option Json)) = .ok (some value) ∨
      (Reading.field? members name : Except Fault (Option Json)) =
        .error (.repeatedField name) := by
  have member : (name, value) ∈ members.filter (·.1 == name) :=
    List.mem_filter.mpr ⟨listed, beq_self_eq_true name⟩
  unfold Reading.field?
  split
  · rename_i nothing
    rw [nothing] at member
    cases member
  · rename_i entry one
    rw [one, List.mem_singleton] at member
    rw [← member]
    exact .inl rfl
  · exact .inr rfl

/-- A field without a default that is read is read from every member of its name. -/
theorem read_of_required {result : α} (listed : (name, value) ∈ members)
    (answer : Reading.required members name read = .ok result) : read value = .ok result := by
  unfold Reading.required at answer
  rcases field?_of_mem listed with found | repeated
  · rw [found] at answer
    exact answer
  · rw [repeated] at answer
    cases answer

/-- A field with a default that is read is read from every member of its name. -/
theorem read_of_optional {default result : α} (listed : (name, value) ∈ members)
    (answer : Reading.optional members name default read = .ok result) :
    read value = .ok result := by
  unfold Reading.optional at answer
  rcases field?_of_mem listed with found | repeated
  · rw [found] at answer
    exact answer
  · rw [repeated] at answer
    cases answer

/-- A text is read from a text. -/
theorem text_string (text : String) : reading.text (string text) = .ok text := rfl

/-- Texts are read from texts. -/
theorem list_ofTexts (texts : List String) :
    reading.list reading.text (ofTexts texts) = .ok texts := by
  change (texts.map string).mapM (asText "a string") = .ok texts
  rw [Reading.mapM_eq_ok_iff, List.forall₂_map_left_iff, List.forall₂_same]
  exact fun text _ => rfl

/-- Paths are read from texts. -/
theorem list_paths (paths : List String) :
    reading.list reading.path (ofTexts paths) = .ok paths := by
  change (paths.map string).mapM (asText "path string") = .ok paths
  rw [Reading.mapM_eq_ok_iff, List.forall₂_map_left_iff, List.forall₂_same]
  exact fun path _ => rfl

end Json

/-! ## Kinds, origins and aliases -/

/-- A return kind is decoded as it was encoded, whatever the name of another type is. -/
theorem ReturnKind.ofJson_toJson (kind : ReturnKind) : ofJson kind.toJson = .ok kind := by
  cases kind <;> rfl

/-- An origin is decoded from its name. -/
theorem Origin.ofJson_name (origin : Origin) : ofJson (.string origin.name) = .ok origin := by
  cases origin <;> rfl

/-- A map of texts is read from the object of its entries. -/
theorem Json.textMap_object (map : NameMap String) :
    reading.textMap (.object (map.entries.map fun entry => (entry.1, .string entry.2))) =
      .ok map := by
  have texts : (map.entries.map fun entry => (entry.1, string entry.2)).mapM
      (fun entry => do return (entry.1, ← reading.text entry.2)) =
        (.ok map.entries : Except Fault (List (String × String))) := by
    rw [Reading.mapM_eq_ok_iff, List.forall₂_map_left_iff, List.forall₂_same]
    exact fun entry _ => rfl
  change (do
    let entries ← (map.entries.map fun entry => (entry.1, string entry.2)).mapM
      (fun entry => do return (entry.1, ← reading.text entry.2))
    return NameMap.ofList entries : Except Fault (NameMap String)) = .ok map
  rw [texts]
  exact congrArg Except.ok map.ofList_entries

/-! ## Records -/

namespace Signature

/-- The members of a signature. -/
def members (signature : Signature) : List (String × Json) := [
  ("name", .string signature.name),
  ("params", .ofTexts signature.params),
  ("returns", signature.returns.toJson)]

/-- The fields of a signature. -/
def layout : Json.Layout where
  required := ["name"]
  defaults := [("params", .array []), ("returns", .string "any")]

/-- The value says what the encoded signature says. -/
def Restated (signature : Signature) (json : Json) : Prop :=
  ∃ members, json = .object members ∧ layout.Restates signature.members members

/-- An encoded signature says what it says. -/
theorem restated_toJson (signature : Signature) : signature.Restated signature.toJson :=
  ⟨signature.members, rfl, .refl _ _⟩

/-- A signature is decoded from every value that says what it says. -/
theorem ofJson_of_restated {signature : Signature} {json : Json}
    (restated : signature.Restated json) : ofJson json = .ok signature := by
  obtain ⟨members, rfl, restates⟩ := restated
  have distinct : (signature.members.map (·.1)).Nodup := by simp [Signature.members]
  have name : Reading.required members "name" Json.reading.text = .ok signature.name :=
    restates.required distinct (Json.text_string _) (by simp [Signature.members]) (by simp [layout])
  have params : Reading.optional members "params" [] (Json.reading.list Json.reading.text) =
      .ok signature.params :=
    restates.optional distinct (Json.list_ofTexts _) (Json.list_ofTexts [])
      (by simp [Signature.members]) (by simp [layout, Json.ofTexts])
  have returns : Reading.optional members "returns" .any Json.reading.returnKind =
      .ok signature.returns :=
    restates.optional distinct (ReturnKind.ofJson_toJson _) (ReturnKind.ofJson_toJson .any)
      (by simp [Signature.members]) (by simp [layout, ReturnKind.toJson])
  change (do
    let name ← Reading.required members "name" Json.reading.text
    let params ← Reading.optional members "params" [] (Json.reading.list Json.reading.text)
    let returns ← Reading.optional members "returns" .any Json.reading.returnKind
    return { name, params, returns } : Except Fault Signature) = .ok signature
  rw [name, params, returns]
  rfl

/-- Signatures are decoded from values that say what they say, one for each. -/
theorem list_of_restated {signatures : List Signature} {values : List Json}
    (restated : List.Forall₂ Restated signatures values) :
    Json.reading.list Json.reading.signature (.array values) = .ok signatures := by
  change values.mapM ofJson = .ok signatures
  exact Reading.mapM_eq_ok_iff.mpr (restated.flip.imp fun _ _ => ofJson_of_restated)

/-- A signature without a name is not decoded. -/
theorem ofJson_of_lacks {members : List (String × Json)} (lacks : Json.Lacks members "name") :
    ofJson (.object members) = .error (.missingField "name") := by
  change (Reading.required members "name" Json.reading.text >>= _) = _
  rw [Json.required_of_lacks lacks]
  rfl

end Signature

namespace Protocol

/-- The members of a protocol whose methods are given. -/
def members (protocol : Protocol) (methods : List Json) : List (String × Json) := [
  ("aliases", .ofTexts protocol.aliases),
  ("description", .string protocol.description),
  ("methods", .array methods),
  ("name", .string protocol.name),
  ("origin", .string protocol.origin.name)]

/-- The fields of a protocol. -/
def layout : Json.Layout where
  required := ["name", "methods"]
  defaults := [("aliases", .array []), ("description", .string ""), ("origin", .string "local")]

/-- The value says what the encoded protocol says, and so do the methods in it. -/
def Restated (protocol : Protocol) (json : Json) : Prop :=
  ∃ methods members, List.Forall₂ Signature.Restated protocol.methods methods ∧
    json = .object members ∧ layout.Restates (protocol.members methods) members

/-- An encoded protocol says what it says. -/
theorem restated_toJson (protocol : Protocol) : protocol.Restated protocol.toJson := by
  refine ⟨protocol.methods.map Signature.toJson, _, ?_, rfl, .refl _ _⟩
  rw [List.forall₂_map_right_iff, List.forall₂_same]
  exact fun method _ => method.restated_toJson

/-- A protocol is decoded if each of its fields is read. -/
theorem ofJson_eq_ok_iff {members : List (String × Json)} {protocol : Protocol} :
    ofJson (.object members) = .ok protocol ↔
      Reading.required members "name" Json.reading.text = .ok protocol.name ∧
        Reading.optional members "aliases" [] (Json.reading.list Json.reading.text) =
          .ok protocol.aliases ∧
        Reading.optional members "description" "" Json.reading.text = .ok protocol.description ∧
        Reading.optional members "origin" .own Json.reading.origin = .ok protocol.origin ∧
        Reading.required members "methods" (Json.reading.list Json.reading.signature) =
          .ok protocol.methods := by
  change (do
    let name ← Reading.required members "name" Json.reading.text
    let aliases ← Reading.optional members "aliases" [] (Json.reading.list Json.reading.text)
    let description ← Reading.optional members "description" "" Json.reading.text
    let origin ← Reading.optional members "origin" .own Json.reading.origin
    let methods ← Reading.required members "methods" (Json.reading.list Json.reading.signature)
    return { name, aliases, description, origin, methods } : Except Fault Protocol) =
      .ok protocol ↔ _
  simp only [Reading.bind_eq_ok_iff]
  constructor
  · rintro ⟨name, named, aliases, aliased, description, described, origin, came, methods, listed,
      made⟩
    cases made
    exact ⟨named, aliased, described, came, listed⟩
  · rintro ⟨named, aliased, described, came, listed⟩
    exact ⟨_, named, _, aliased, _, described, _, came, _, listed, rfl⟩

/-- A protocol is decoded from every value that says what it says. -/
theorem ofJson_of_restated {protocol : Protocol} {json : Json}
    (restated : protocol.Restated json) : ofJson json = .ok protocol := by
  obtain ⟨values, members, restated, rfl, restates⟩ := restated
  have distinct : ((protocol.members values).map (·.1)).Nodup := by simp [Protocol.members]
  refine ofJson_eq_ok_iff.mpr ⟨?name, ?aliases, ?description, ?origin, ?methods⟩
  case name =>
    exact restates.required distinct (Json.text_string _) (by simp [Protocol.members])
      (by simp [layout])
  case aliases =>
    exact restates.optional distinct (Json.list_ofTexts _) (Json.list_ofTexts [])
      (by simp [Protocol.members]) (by simp [layout, Json.ofTexts])
  case description =>
    exact restates.optional distinct (Json.text_string _) (Json.text_string "")
      (by simp [Protocol.members]) (by simp [layout])
  case origin =>
    exact restates.optional distinct (Origin.ofJson_name _) (Origin.ofJson_name .own)
      (by simp [Protocol.members]) (by simp [layout, Origin.name])
  case methods =>
    exact restates.required distinct (Signature.list_of_restated restated)
      (by simp [Protocol.members]) (by simp [layout])

/-- A protocol that lacks its name or its methods, or one of whose methods lacks its name, is not
decoded. -/
theorem ofJson_of_lacks {members : List (String × Json)}
    (lacks : Json.Lacks members "name" ∨ Json.Lacks members "methods" ∨
      ∃ methods inner, ("methods", .array methods) ∈ members ∧ .object inner ∈ methods ∧
        Json.Lacks inner "name") :
    ∃ fault, ofJson (.object members) = .error fault := by
  cases decoded : ofJson (.object members) with
  | error fault => exact ⟨fault, rfl⟩
  | ok protocol =>
    exfalso
    obtain ⟨named, -, -, -, listed⟩ := ofJson_eq_ok_iff.mp decoded
    rcases lacks with nameless | bare | ⟨methods, inner, member, inside, nameless⟩
    · rw [Json.required_of_lacks nameless] at named
      cases named
    · rw [Json.required_of_lacks bare] at listed
      cases listed
    · have reads : methods.mapM Signature.ofJson = .ok protocol.methods :=
        Json.read_of_required member listed
      obtain ⟨signature, decodes⟩ := Reading.reads_of_mem reads inside
      rw [Signature.ofJson_of_lacks nameless] at decodes
      cases decodes

end Protocol

namespace Surface

/-- The members of a surface whose methods are given. -/
def members (surface : Surface) (methods : List Json) : List (String × Json) := [
  ("methods", .array methods),
  ("name", .string surface.name)]

/-- The fields of a surface. -/
def layout : Json.Layout where
  required := ["name"]
  defaults := [("methods", .array [])]

/-- The value says what the encoded surface says, and so do the methods in it. -/
def Restated (surface : Surface) (json : Json) : Prop :=
  ∃ methods members, List.Forall₂ Signature.Restated surface.methods methods ∧
    json = .object members ∧ layout.Restates (surface.members methods) members

/-- An encoded surface says what it says. -/
theorem restated_toJson (surface : Surface) : surface.Restated surface.toJson := by
  refine ⟨surface.methods.map Signature.toJson, _, ?_, rfl, .refl _ _⟩
  rw [List.forall₂_map_right_iff, List.forall₂_same]
  exact fun method _ => method.restated_toJson

/-- A surface is decoded if each of its fields is read. -/
theorem ofJson_eq_ok_iff {members : List (String × Json)} {surface : Surface} :
    ofJson (.object members) = .ok surface ↔
      Reading.required members "name" Json.reading.text = .ok surface.name ∧
        Reading.optional members "methods" [] (Json.reading.list Json.reading.signature) =
          .ok surface.methods := by
  change (do
    let name ← Reading.required members "name" Json.reading.text
    let methods ← Reading.optional members "methods" [] (Json.reading.list Json.reading.signature)
    return { name, methods } : Except Fault Surface) = .ok surface ↔ _
  simp only [Reading.bind_eq_ok_iff]
  constructor
  · rintro ⟨name, named, methods, listed, made⟩
    cases made
    exact ⟨named, listed⟩
  · rintro ⟨named, listed⟩
    exact ⟨_, named, _, listed, rfl⟩

/-- A surface is decoded from every value that says what it says. -/
theorem ofJson_of_restated {surface : Surface} {json : Json} (restated : surface.Restated json) :
    ofJson json = .ok surface := by
  obtain ⟨values, members, restated, rfl, restates⟩ := restated
  have distinct : ((surface.members values).map (·.1)).Nodup := by simp [Surface.members]
  refine ofJson_eq_ok_iff.mpr ⟨?name, ?methods⟩
  case name =>
    exact restates.required distinct (Json.text_string _) (by simp [Surface.members])
      (by simp [layout])
  case methods =>
    exact restates.optional distinct (Signature.list_of_restated restated)
      (Signature.list_of_restated .nil) (by simp [Surface.members]) (by simp [layout])

/-- A surface that lacks its name, or one of whose methods lacks its name, is not decoded. -/
theorem ofJson_of_lacks {members : List (String × Json)}
    (lacks : Json.Lacks members "name" ∨
      ∃ methods inner, ("methods", .array methods) ∈ members ∧ .object inner ∈ methods ∧
        Json.Lacks inner "name") :
    ∃ fault, ofJson (.object members) = .error fault := by
  cases decoded : ofJson (.object members) with
  | error fault => exact ⟨fault, rfl⟩
  | ok surface =>
    exfalso
    obtain ⟨named, listed⟩ := ofJson_eq_ok_iff.mp decoded
    rcases lacks with nameless | ⟨values, inner, member, inside, nameless⟩
    · rw [Json.required_of_lacks nameless] at named
      cases named
    · have reads : values.mapM Signature.ofJson = .ok surface.methods :=
        Json.read_of_optional member listed
      obtain ⟨signature, decodes⟩ := Reading.reads_of_mem reads inside
      rw [Signature.ofJson_of_lacks nameless] at decodes
      cases decodes

end Surface

namespace Settings

/-- The fields of settings, all of which have a default. -/
def layout : Json.Layout where
  required := []
  defaults := ({} : Settings).members.entries
  distinct := NameMap.nodup_names _

/-- The value says what the encoded settings say. -/
def Restated (settings : Settings) (json : Json) : Prop :=
  ∃ members, json = .object members ∧ layout.Restates settings.members.entries members

/-- Encoded settings say what they say. -/
theorem restated_toJson (settings : Settings) : settings.Restated settings.toJson :=
  ⟨settings.members.entries, rfl, .refl _ _⟩

/-- The members of settings are the four fields. -/
theorem mem_members {settings : Settings} {name : String} {value : Json} :
    (name, value) ∈ settings.members.entries ↔
      (name, value) = ("search_paths", .ofTexts settings.searchPaths) ∨
      (name, value) = ("aliases",
        .object (settings.aliases.entries.map fun entry => (entry.1, .string entry.2))) ∨
      (name, value) = ("allow_redeclaration", .bool settings.allowRedeclaration) ∨
      (name, value) = ("include_standard", .bool settings.includeStandard) := by
  rw [members, NameMap.mem_entries_ofList (by simp)]
  simp

/-- A truth value is read from one. -/
theorem flag_bool (b : Bool) : Json.reading.flag (.bool b) = .ok b := rfl

/-- Settings are decoded from every value that says what they say. -/
theorem ofJson_of_restated {settings : Settings} {json : Json}
    (restated : settings.Restated json) : ofJson json = .ok settings := by
  obtain ⟨members, rfl, restates⟩ := restated
  have distinct := settings.members.nodup_names
  have aliases : Reading.optional members "aliases" ({} : Settings).aliases
      Json.reading.textMap = .ok settings.aliases :=
    restates.optional distinct (Json.textMap_object _) (Json.textMap_object _)
      (by simp [mem_members]) (by simp [layout, mem_members])
  have redeclare : Reading.optional members "allow_redeclaration"
      ({} : Settings).allowRedeclaration Json.reading.flag = .ok settings.allowRedeclaration :=
    restates.optional distinct (flag_bool _) (flag_bool _)
      (by simp [mem_members]) (by simp [layout, mem_members])
  have include_standard : Reading.optional members "include_standard"
      ({} : Settings).includeStandard Json.reading.flag = .ok settings.includeStandard :=
    restates.optional distinct (flag_bool _) (flag_bool _)
      (by simp [mem_members]) (by simp [layout, mem_members])
  have paths : Reading.optional members "search_paths" ({} : Settings).searchPaths
      (Json.reading.list Json.reading.path) = .ok settings.searchPaths :=
    restates.optional distinct (Json.list_paths _) (Json.list_paths _)
      (by simp [mem_members]) (by simp [layout, mem_members])
  change (do
    let aliases ← Reading.optional members "aliases" ({} : Settings).aliases
      Json.reading.textMap
    let allowRedeclaration ← Reading.optional members "allow_redeclaration"
      ({} : Settings).allowRedeclaration Json.reading.flag
    let includeStandard ← Reading.optional members "include_standard"
      ({} : Settings).includeStandard Json.reading.flag
    let searchPaths ← Reading.optional members "search_paths" ({} : Settings).searchPaths
      (Json.reading.list Json.reading.path)
    return { searchPaths, aliases, allowRedeclaration, includeStandard } :
      Except Fault Settings) = .ok settings
  rw [aliases, redeclare, include_standard, paths]
  rfl

end Settings

/-! ## The whole data model -/

/-- Decoding undoes encoding. Every protocol, surface and settings value is decoded from its
encoding as it was, and from every restatement of that: at each level of a record any fields that
hold their default may be left out and any members of unknown names may be added. A protocol without
a name or without methods, a surface without a name, and one of either with a method without a name
are not decoded. -/
theorem decode_encode :
    ((∀ protocol : Protocol, Protocol.ofJson protocol.toJson = .ok protocol) ∧
      (∀ surface : Surface, Surface.ofJson surface.toJson = .ok surface) ∧
      ∀ settings : Settings, Settings.ofJson settings.toJson = .ok settings) ∧
    ((∀ (protocol : Protocol) json, protocol.Restated json →
        Protocol.ofJson json = .ok protocol) ∧
      (∀ (surface : Surface) json, surface.Restated json → Surface.ofJson json = .ok surface) ∧
      ∀ (settings : Settings) json, settings.Restated json →
        Settings.ofJson json = .ok settings) ∧
    (∀ members,
      (Json.Lacks members "name" ∨ Json.Lacks members "methods" ∨
        ∃ methods inner, ("methods", .array methods) ∈ members ∧ .object inner ∈ methods ∧
          Json.Lacks inner "name") →
      ∃ fault, Protocol.ofJson (.object members) = .error fault) ∧
    ∀ members,
      (Json.Lacks members "name" ∨
        ∃ methods inner, ("methods", .array methods) ∈ members ∧ .object inner ∈ methods ∧
          Json.Lacks inner "name") →
      ∃ fault, Surface.ofJson (.object members) = .error fault := by
  refine ⟨⟨?_, ?_, ?_⟩, ⟨?_, ?_, ?_⟩, fun _ => Protocol.ofJson_of_lacks,
    fun _ => Surface.ofJson_of_lacks⟩
  · exact fun protocol => Protocol.ofJson_of_restated protocol.restated_toJson
  · exact fun surface => Surface.ofJson_of_restated surface.restated_toJson
  · exact fun settings => Settings.ofJson_of_restated settings.restated_toJson
  · exact fun _ _ => Protocol.ofJson_of_restated
  · exact fun _ _ => Surface.ofJson_of_restated
  · exact fun _ _ => Settings.ofJson_of_restated

/-- A signature that leaves its parameters out and says something that no field asks for. -/
def looseSignature : List (String × Json) := [
  ("static", .bool false),
  ("returns", .object [("named", .string "int")]),
  ("name", .string "path")]

/-- A protocol with that signature that leaves its aliases and its origin out. -/
def looseProtocol : List (String × Json) := [
  ("version", .null),
  ("name", .string "Pathlike"),
  ("methods", .array [.object looseSignature]),
  ("description", .string "Gives a path")]

/-- The protocol is decoded, with a method that returns a type of the name of another kind. Without
its methods it is refused. -/
theorem decode_encode_loose :
    let protocol : Protocol :=
      { name := "Pathlike", description := "Gives a path", methods := [⟨"path", [], .named "int"⟩] }
    protocol.Restated (.object looseProtocol) ∧
      Protocol.ofJson (.object looseProtocol) = .ok protocol ∧
      Json.Lacks (looseProtocol.take 2) "methods" ∧
      ∃ fault, Protocol.ofJson (.object (looseProtocol.take 2)) = .error fault := by
  intro protocol
  obtain ⟨-, ⟨restatements, -⟩, refusals, -⟩ := decode_encode
  have inner : Signature.Restated ⟨"path", [], .named "int"⟩ (.object looseSignature) := by
    refine ⟨_, rfl, [("name", .string "path"), ("returns", .object [("named", .string "int")])],
      [("static", .bool false)], .cons_cons _ (.cons _ (.cons_cons _ .slnil)), ?_, ?_,
      (List.reverse_perm looseSignature).symm⟩
    · simp [Signature.members, Signature.layout, ReturnKind.toJson, ReturnKind.namedVariant,
        Json.ofTexts]
    · simp [Signature.layout, Json.Layout.fields]
  have restated : protocol.Restated (.object looseProtocol) := by
    refine ⟨[.object looseSignature], _, .cons inner .nil, rfl,
      [("description", .string "Gives a path"), ("methods", .array [.object looseSignature]),
        ("name", .string "Pathlike")], [("version", .null)],
      .cons _ (.cons_cons _ (.cons_cons _ (.cons_cons _ (.cons _ .slnil)))), ?_, ?_,
      (List.reverse_perm looseProtocol).symm⟩
    · simp [protocol, Protocol.members, Protocol.layout, Origin.name, Json.ofTexts]
    · simp [Protocol.layout, Json.Layout.fields]
  have lacks : Json.Lacks (looseProtocol.take 2) "methods" := by
    simp [Json.Lacks, looseProtocol]
  exact ⟨restated, restatements _ _ restated, lacks, refusals _ (.inr (.inl lacks))⟩

end Covenant
