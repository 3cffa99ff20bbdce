import Covenant.Proofs.Json.RoundTrip

/-!
# Overriding settings

Settings are overridden by way of JSON: they are encoded, the overrides are laid over the members,
and the result is decoded. Nothing of this way shows in the answer (`Settings.override_eq`): each
setting is read from the value that is laid over it, or kept. From that follow the exact condition
for an answer, the answer, and that overriding twice is overriding once with the second overrides
laid over the first, refusals included (`Settings.override_laws`).
-/
namespace Covenant

/-! ## Maps laid over each other -/

section Overlay

variable (defaults overrides last : NameMap Json)

/-- A name is looked up in the overrides first. -/
theorem find?_overlay (name : String) :
    (overlay defaults overrides).find? name =
      (overrides.find? name).or (defaults.find? name) :=
  defaults.find?_insertAll overrides.nodup_names name

/-- Of three maps it does not matter which two are laid over each other first. -/
theorem overlay_assoc :
    overlay (overlay defaults overrides) last = overlay defaults (overlay overrides last) := by
  apply NameMap.ext_find?
  intro name
  simp only [find?_overlay, Option.or_assoc]

/-- The map without entries overrides nothing. -/
theorem overlay_empty : overlay defaults .empty = defaults := rfl

/-- What is laid over the map without entries is all there is. -/
theorem empty_overlay : overlay .empty overrides = overrides := overrides.ofList_entries

/-- Both maps may be listed in any order. -/
theorem overlay_of_perm {kept order : List (String × Json)} (listed : kept.Perm defaults.entries)
    (listed' : order.Perm overrides.entries) :
    (NameMap.ofList kept).insertAll order = overlay defaults overrides := by
  have same : NameMap.ofList kept = defaults :=
    (NameMap.empty.insertAll_of_perm defaults.nodup_names listed).trans defaults.ofList_entries
  rw [same]
  exact defaults.insertAll_of_perm overrides.nodup_names listed'

end Overlay

/-! ## One setting -/

namespace Json

/-- The value is a map from texts to texts. Of two members with one name the later counts. -/
def IsTextMap (json : Json) (map : NameMap String) : Prop :=
  ∃ entries : List (String × String),
    json = object (entries.map fun entry => (entry.1, string entry.2)) ∧ map = .ofList entries

/-- A field of a map is what a look-up answers; no name is repeated. -/
theorem field?_entries (map : NameMap Json) (name : String) :
    (Reading.field? map.entries name : Except Fault (Option Json)) = .ok (map.find? name) := by
  unfold Reading.field?
  cases found : map.find? name with
  | none =>
    have nothing : map.entries.filter (·.1 == name) = [] := by
      refine List.filter_eq_nil_iff.mpr fun entry member same => ?_
      have some_value : map.find? name = some entry.2 :=
        NameMap.find?_eq_some_iff.mpr (eq_of_beq same ▸ member)
      rw [found] at some_value
      cases some_value
    rw [nothing]
    rfl
  | some value =>
    rw [filter_eq_singleton map.nodup_names (NameMap.find?_eq_some_iff.mp found)]
    rfl

variable {json : Json}

/-- A value of another kind than is wanted is not read. -/
theorem unlike_ne_ok {α : Type} {wanted : String} {value : α} : json.unlike wanted ≠ .ok value := by
  intro reads
  cases reads

/-- A text is read from that text and from nothing else. -/
theorem asText_eq_ok_iff {wanted text : String} :
    asText wanted json = .ok text ↔ json = string text := by
  cases json <;> simp [asText, unlike_ne_ok, pure, Except.pure]

/-- A truth value is read from that value and from nothing else. -/
theorem flag_eq_ok_iff {b : Bool} : reading.flag json = .ok b ↔ json = bool b := by
  cases json <;> simp [reading, asFlag, unlike_ne_ok, pure, Except.pure]

/-- Items are read from an array of them and from nothing else. -/
theorem asItems_eq_ok_iff {items : List Json} : asItems json = .ok items ↔ json = array items := by
  cases json <;> simp [asItems, unlike_ne_ok, pure, Except.pure]

/-- Members are read from an object of them and from nothing else. -/
theorem asTable_eq_ok_iff {members : List (String × Json)} :
    asTable json = .ok members ↔ json = object members := by
  cases json <;> simp [asTable, unlike_ne_ok, pure, Except.pure]

/-- Paths are read from the array of their texts and from nothing else. -/
theorem paths_eq_ok_iff {paths : List String} :
    reading.list reading.path json = .ok paths ↔ json = ofTexts paths := by
  have each (items : List Json) : items.mapM reading.path = .ok paths ↔ items = paths.map string :=
    Reading.mapM_eq_ok_iff_map fun _ _ => asText_eq_ok_iff
  change (asItems json >>= fun items => items.mapM reading.path) = .ok paths ↔ _
  simp only [Reading.bind_eq_ok_iff, asItems_eq_ok_iff, each, exists_eq_right, ofTexts]

/-- A member is read as an entry of a map of texts exactly if its value is the text of the entry. -/
theorem textMember_eq_ok_iff {member : String × Json} {entry : String × String} :
    (do return (member.1, ← reading.text member.2) : Except Fault (String × String)) = .ok entry ↔
      member = (entry.1, string entry.2) := by
  obtain ⟨name, value⟩ := member
  rw [Reading.bind_eq_ok_iff, Prod.mk.injEq]
  constructor
  · rintro ⟨text, reads, made⟩
    cases made
    exact ⟨rfl, asText_eq_ok_iff.mp reads⟩
  · rintro ⟨rfl, written⟩
    exact ⟨entry.2, asText_eq_ok_iff.mpr written, rfl⟩

/-- A map of texts is read from an object of texts and from nothing else. -/
theorem textMap_eq_ok_iff {map : NameMap String} :
    reading.textMap json = .ok map ↔ json.IsTextMap map := by
  have each (members : List (String × Json)) (entries : List (String × String)) :
      members.mapM (fun member => do return (member.1, ← reading.text member.2)) =
        (.ok entries : Except Fault (List (String × String))) ↔
          members = entries.map fun entry => (entry.1, string entry.2) :=
    Reading.mapM_eq_ok_iff_map fun _ _ => textMember_eq_ok_iff
  change (do
    let members ← asTable json
    let entries ← members.mapM fun member => do return (member.1, ← reading.text member.2)
    return NameMap.ofList entries : Except Fault (NameMap String)) = .ok map ↔ _
  simp only [Reading.bind_eq_ok_iff, asTable_eq_ok_iff, each]
  constructor
  · rintro ⟨members, rfl, entries, rfl, made⟩
    exact ⟨entries, rfl, (Except.ok.inj made).symm⟩
  · rintro ⟨entries, rfl, rfl⟩
    exact ⟨_, rfl, entries, rfl, rfl⟩

end Json

section Setting

variable {α : Type}

/-- A setting as it is read from the value laid over it, or kept where nothing is. -/
def overridden (overrides : NameMap Json) (name : String) (read : Json → Except Fault α)
    (kept : α) : Except Fault α :=
  match overrides.find? name with
  | some value => read value
  | none => .ok kept

/-- A setting is what the value laid over it says, or what it was where nothing is. -/
def ComesOut (overrides : NameMap Json) (name : String) (holds : Json → α → Prop)
    (kept new : α) : Prop :=
  match overrides.find? name with
  | some value => holds value new
  | none => new = kept

variable {overrides later : NameMap Json} {name : String} {read : Json → Except Fault α}
  {holds : Json → α → Prop} {kept new : α}

/-- A field with a default is the default overridden by the members. -/
theorem optional_entries :
    Reading.optional overrides.entries name kept read = overridden overrides name read kept := by
  unfold Reading.optional overridden
  rw [Json.field?_entries]
  cases overrides.find? name <;> rfl

/-- A setting whose value is among the members is read from there. -/
theorem overridden_of_mem {value : Json} (listed : (name, value) ∈ overrides.entries)
    (reads : read value = .ok new) : overridden overrides name read kept = .ok new := by
  unfold overridden
  rw [NameMap.find?_eq_some_iff.mpr listed]
  exact reads

/-- What is laid over an overridden setting overrides what it had become. -/
theorem overridden_overlay (reads : overridden overrides name read kept = .ok new) :
    overridden (overlay overrides later) name read kept = overridden later name read new := by
  unfold overridden at reads ⊢
  rw [find?_overlay]
  cases later.find? name with
  | some value => rfl
  | none => exact reads

/-- A setting is read from the overrides exactly as what the value laid over it says. -/
theorem overridden_eq_ok_iff (exact_value : ∀ value new, read value = .ok new ↔ holds value new) :
    overridden overrides name read kept = .ok new ↔ ComesOut overrides name holds kept new := by
  unfold overridden ComesOut
  cases overrides.find? name with
  | some value => exact exact_value value new
  | none => exact Except.ok.injEq kept new ▸ eq_comm

/-- Some setting comes out exactly if whatever is laid over it says something. -/
theorem exists_comesOut_iff :
    (∃ new, ComesOut overrides name holds kept new) ↔
      ∀ value, overrides.find? name = some value → ∃ new, holds value new := by
  unfold ComesOut
  cases overrides.find? name with
  | some value => simp
  | none => simp

end Setting

/-! ## All settings -/

namespace Settings

/-- The names of the settings. -/
def names : List String := ["aliases", "allow_redeclaration", "include_standard", "search_paths"]

/-- What is laid over the settings is of their types, whatever there is under other names. -/
structure WellTyped (overrides : NameMap Json) : Prop where
  /-- Aliases are an object of texts. -/
  aliases : ∀ value, overrides.find? "aliases" = some value → ∃ map, value.IsTextMap map
  /-- The mode is a truth value. -/
  allowRedeclaration : ∀ value, overrides.find? "allow_redeclaration" = some value →
    ∃ b, value = .bool b
  /-- Whether the standard protocols are there is a truth value. -/
  includeStandard : ∀ value, overrides.find? "include_standard" = some value →
    ∃ b, value = .bool b
  /-- Search paths are an array of texts. -/
  searchPaths : ∀ value, overrides.find? "search_paths" = some value →
    ∃ paths, value = .ofTexts paths

/-- Each setting is what the value laid over it says, or what it was. -/
structure Overridden (settings : Settings) (overrides : NameMap Json) (changed : Settings) :
    Prop where
  /-- The aliases are taken over as a whole. -/
  aliases : ComesOut overrides "aliases" Json.IsTextMap settings.aliases changed.aliases
  /-- The mode is taken over. -/
  allowRedeclaration : ComesOut overrides "allow_redeclaration" (fun value b => value = .bool b)
    settings.allowRedeclaration changed.allowRedeclaration
  /-- Whether the standard protocols are there is taken over. -/
  includeStandard : ComesOut overrides "include_standard" (fun value b => value = .bool b)
    settings.includeStandard changed.includeStandard
  /-- The search paths are taken over as a whole. -/
  searchPaths : ComesOut overrides "search_paths" (fun value paths => value = .ofTexts paths)
    settings.searchPaths changed.searchPaths

variable {settings changed : Settings} {overrides later : NameMap Json}

/-- Some settings come out exactly if what is laid over them is of their types. -/
theorem exists_overridden_iff :
    (∃ changed, settings.Overridden overrides changed) ↔ WellTyped overrides := by
  constructor
  · rintro ⟨changed, aliases, redeclare, include_standard, paths⟩
    exact ⟨exists_comesOut_iff.mp ⟨_, aliases⟩, exists_comesOut_iff.mp ⟨_, redeclare⟩,
      exists_comesOut_iff.mp ⟨_, include_standard⟩, exists_comesOut_iff.mp ⟨_, paths⟩⟩
  · rintro ⟨aliases, redeclare, include_standard, paths⟩
    obtain ⟨aliases, took_aliases⟩ := exists_comesOut_iff.mpr aliases
    obtain ⟨allowRedeclaration, took_mode⟩ := exists_comesOut_iff.mpr redeclare
    obtain ⟨includeStandard, took_standard⟩ := exists_comesOut_iff.mpr include_standard
    obtain ⟨searchPaths, took_paths⟩ := exists_comesOut_iff.mpr paths
    exact ⟨{ searchPaths, aliases, allowRedeclaration, includeStandard }, took_aliases, took_mode,
      took_standard, took_paths⟩

/-- Each setting is read from the value laid over it, or kept, and the first that cannot be read in
the order of the names is reported. The encoded settings do not matter beyond that. -/
theorem override_eq (settings : Settings) (overrides : NameMap Json) :
    settings.override overrides = (do
      let aliases ← overridden overrides "aliases" Json.reading.textMap settings.aliases
      let allowRedeclaration ← overridden overrides "allow_redeclaration" Json.reading.flag
        settings.allowRedeclaration
      let includeStandard ← overridden overrides "include_standard" Json.reading.flag
        settings.includeStandard
      let searchPaths ← overridden overrides "search_paths"
        (Json.reading.list Json.reading.path) settings.searchPaths
      return { searchPaths, aliases, allowRedeclaration, includeStandard }) := by
  have aliases : overridden settings.members "aliases" Json.reading.textMap
      ({} : Settings).aliases = .ok settings.aliases :=
    overridden_of_mem (by simp [mem_members]) (Json.textMap_object _)
  have redeclare : overridden settings.members "allow_redeclaration" Json.reading.flag
      ({} : Settings).allowRedeclaration = .ok settings.allowRedeclaration :=
    overridden_of_mem (by simp [mem_members]) (flag_bool _)
  have include_standard : overridden settings.members "include_standard" Json.reading.flag
      ({} : Settings).includeStandard = .ok settings.includeStandard :=
    overridden_of_mem (by simp [mem_members]) (flag_bool _)
  have paths : overridden settings.members "search_paths" (Json.reading.list Json.reading.path)
      ({} : Settings).searchPaths = .ok settings.searchPaths :=
    overridden_of_mem (by simp [mem_members]) (Json.list_paths _)
  -- The defaults of the reader never show, because the members of the settings lie over them.
  rw [← overridden_overlay aliases, ← overridden_overlay redeclare,
    ← overridden_overlay include_standard, ← overridden_overlay paths]
  simp only [← optional_entries]
  rfl

/-- Settings that come out are exactly those where each setting is what the value laid over it says,
or what it was. -/
theorem override_eq_ok_iff :
    settings.override overrides = .ok changed ↔ settings.Overridden overrides changed := by
  have aliases (new) : overridden overrides "aliases" Json.reading.textMap settings.aliases =
      .ok new ↔ ComesOut overrides "aliases" Json.IsTextMap settings.aliases new :=
    overridden_eq_ok_iff fun _ _ => Json.textMap_eq_ok_iff
  have flag (name kept new) : overridden overrides name Json.reading.flag kept = .ok new ↔
      ComesOut overrides name (fun value b => value = .bool b) kept new :=
    overridden_eq_ok_iff fun _ _ => Json.flag_eq_ok_iff
  have paths (new) : overridden overrides "search_paths" (Json.reading.list Json.reading.path)
      settings.searchPaths = .ok new ↔ ComesOut overrides "search_paths"
        (fun value paths => value = .ofTexts paths) settings.searchPaths new :=
    overridden_eq_ok_iff fun _ _ => Json.paths_eq_ok_iff
  rw [override_eq]
  simp only [Reading.bind_eq_ok_iff, aliases, flag, paths]
  constructor
  · rintro ⟨_, took_aliases, _, took_mode, _, took_standard, _, took_paths, made⟩
    cases made
    exact ⟨took_aliases, took_mode, took_standard, took_paths⟩
  · rintro ⟨took_aliases, took_mode, took_standard, took_paths⟩
    exact ⟨_, took_aliases, _, took_mode, _, took_standard, _, took_paths, rfl⟩

/-- Settings that were overridden and are overridden again come out as if the later overrides had
been laid over the first, and are refused with the same fault. -/
theorem override_override (first : settings.override overrides = .ok changed) :
    changed.override later = settings.override (overlay overrides later) := by
  rw [override_eq] at first
  simp only [Reading.bind_eq_ok_iff] at first
  obtain ⟨_, took_aliases, _, took_mode, _, took_standard, _, took_paths, made⟩ := first
  cases made
  rw [override_eq, override_eq, overridden_overlay took_aliases, overridden_overlay took_mode,
    overridden_overlay took_standard, overridden_overlay took_paths]

/-- Nothing but what is laid over the settings matters. -/
theorem override_congr (same : ∀ name ∈ names, overrides.find? name = later.find? name) :
    settings.override overrides = settings.override later := by
  simp only [names, List.forall_mem_cons] at same
  simp only [override_eq, overridden, same]

/-- Settings that nothing is laid over stay. -/
theorem override_empty (settings : Settings) : settings.override .empty = .ok settings :=
  settings.override_eq .empty

/-- No setting can be laid over with nothing. -/
theorem not_wellTyped_of_null {name : String} (known : name ∈ names)
    (nothing : overrides.find? name = some .null) : ¬WellTyped overrides := by
  intro typed
  simp only [names, List.mem_cons, List.not_mem_nil, or_false] at known
  rcases known with rfl | rfl | rfl | rfl
  · obtain ⟨_, _, object, _⟩ := typed.aliases _ nothing
    cases object
  · obtain ⟨_, flag⟩ := typed.allowRedeclaration _ nothing
    cases flag
  · obtain ⟨_, flag⟩ := typed.includeStandard _ nothing
    cases flag
  · obtain ⟨_, array⟩ := typed.searchPaths _ nothing
    cases array

/-- Settings are overridden one by one. There is an answer exactly if each value that is laid over a
setting is of its type, which `null` is for none; then each setting is what that value says or,
where there is none, what it was. Other names do not matter, to the fault of a refusal either, and
without any the settings stay. Overriding what was overridden is overriding once with the later
overrides laid over the first, with the same settings or the same fault. Laying over is associative,
has the empty map as identity on both sides, and is the same in whatever order the two maps are
listed. -/
theorem override_laws (settings : Settings) (overrides : NameMap Json) :
    ((∃ changed, settings.override overrides = .ok changed) ↔ WellTyped overrides) ∧
    (∀ name ∈ names, overrides.find? name = some .null → ¬WellTyped overrides) ∧
    (∀ changed,
      settings.override overrides = .ok changed ↔ settings.Overridden overrides changed) ∧
    (∀ other : NameMap Json, (∀ name ∈ names, overrides.find? name = other.find? name) →
      settings.override overrides = settings.override other) ∧
    settings.override .empty = .ok settings ∧
    (∀ changed later, settings.override overrides = .ok changed →
      changed.override later = settings.override (overlay overrides later)) ∧
    (∀ middle last,
      overlay (overlay overrides middle) last = overlay overrides (overlay middle last)) ∧
    overlay overrides .empty = overrides ∧ overlay .empty overrides = overrides ∧
    ∀ (defaults : NameMap Json) (kept order : List (String × Json)),
      kept.Perm defaults.entries → order.Perm overrides.entries →
        (NameMap.ofList kept).insertAll order = overlay defaults overrides := by
  refine ⟨?_, fun _ => not_wellTyped_of_null, fun _ => override_eq_ok_iff, fun _ => override_congr,
    override_empty settings, fun _ _ => override_override, overlay_assoc overrides,
    overlay_empty overrides, empty_overlay overrides,
    fun defaults _ _ => overlay_of_perm defaults overrides⟩
  simp only [override_eq_ok_iff, exists_overridden_iff]

/-- The aliases are overridden, the search paths are kept, and another name is passed over. What is
laid over the result is refused at the aliases, before the search paths, and so is all of it at
once; listed backwards, the maps make the same map. -/
theorem override_laws_refused :
    let settings : Settings :=
      { searchPaths := ["protocols", "/etc/protocols"], aliases := .ofList [("Shut", "Closable")]
        allowRedeclaration := true }
    let overrides : NameMap Json := .ofList
      [("verbose", .null), ("aliases", .object [("Lid", .string "Closable")]),
        ("include_standard", .bool false)]
    let later : NameMap Json := .ofList
      [("search_paths", .string "lib"), ("aliases", .object [("Lid", .null)])]
    let changed : Settings :=
      { searchPaths := ["protocols", "/etc/protocols"], aliases := .ofList [("Lid", "Closable")]
        allowRedeclaration := true, includeStandard := false }
    settings.override overrides = .ok changed ∧
      settings.override (overrides.erase "verbose") = .ok changed ∧
      changed.override later = .error (.wrongKind "null" "a string") ∧
      settings.override (overlay overrides later) = .error (.wrongKind "null" "a string") ∧
      (NameMap.ofList settings.members.entries.reverse).insertAll overrides.entries.reverse =
        overlay settings.members overrides := by
  intro settings overrides later changed
  obtain ⟨-, -, -, others, -, again, -, -, -, orders⟩ := override_laws settings overrides
  have first : settings.override overrides = .ok changed := by decide +kernel
  have refused : changed.override later = .error (.wrongKind "null" "a string") := by
    decide +kernel
  have same : settings.override overrides = settings.override (overrides.erase "verbose") := by
    apply others
    intro name known
    have other : name ≠ "verbose" := fun verbose => absurd (verbose ▸ known) (by decide)
    rw [NameMap.find?_erase, if_neg other]
  exact ⟨first, same ▸ first, refused, again changed later first ▸ refused,
    orders _ _ _ (List.reverse_perm _) (List.reverse_perm _)⟩

end Settings

end Covenant
