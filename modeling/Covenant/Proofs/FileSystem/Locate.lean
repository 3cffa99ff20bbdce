import Covenant.Proofs.FileSystem.Walk

/-!
# What paths lead to

A path leads to a place exactly when it can stand in a call and there is a way along its steps
(`FileSystem.locate_eq_ok_iff`). Below a directory that a path leads to, names that pass no link
make a path to where they stand (`FileSystem.WellFormed.locate_descend_iff`), unless it grows too
long. What is read at a path depends on where it leads and on what stands there, and on nothing else
(`FileSystem.readText_eq_ok_iff`).
-/
namespace Covenant.FileSystem

variable {system less : FileSystem} {path directory : String} {place names last : List String}

/-- The place from which a path starts. -/
def start (system : FileSystem) (path : String) : List String :=
  if Path.isAbsolute path then [] else system.current

/-- A path that can stand in a call is followed along its steps. -/
theorem destination_eq_ok_iff {reached : Destination} : system.destination path true = .ok reached ↔
    '\x00' ∉ path.toList ∧ path.utf8ByteSize ≤ pathLimit ∧ path ≠ "" ∧
      system.walk true linkLimit (system.start path) (Path.steps path) = .ok reached := by
  unfold destination
  split
  · rename_i zero
    simp [List.contains_iff_mem.mp zero]
  · rename_i noZero
    split
    · rename_i long
      simp [Nat.not_le.mpr long]
    · rename_i short
      split
      · rename_i empty
        simp [String.isEmpty_iff.mp empty]
      · rename_i some_path
        rw [List.contains_iff_mem] at noZero
        rw [String.isEmpty_iff] at some_path
        simp only [noZero, Nat.not_lt.mp short, some_path, not_false_eq_true, ne_eq, true_and]
        rfl

/-- A path leads to a place when it can stand in a call and there is a way along its steps. -/
theorem locate_eq_ok_iff : system.locate path = .ok place ↔
    '\x00' ∉ path.toList ∧ path.utf8ByteSize ≤ pathLimit ∧ path ≠ "" ∧
      ∃ left, system.Leads linkLimit (system.start path) (Path.steps path) left place := by
  rw [← walk_eq_found_iff, ← destination_eq_ok_iff]
  unfold locate
  cases system.destination path true with
  | error fault => exact ⟨nofun, nofun⟩
  | ok reached =>
    cases reached with
    | absent above name => exact ⟨nofun, nofun⟩
    | found reached =>
      change Except.ok reached = _ ↔ _
      simp only [Except.ok.injEq, Destination.found.injEq]

/-- Where more stands a path leads to where it led. -/
theorem locate_mono (current : less.current = system.current)
    (within : ∀ place kind, less.kindAt? place = some kind → system.kindAt? place = some kind)
    (located : less.locate path = .ok place) : system.locate path = .ok place := by
  obtain ⟨noZero, short, some_path, left, way⟩ := locate_eq_ok_iff.mp located
  refine locate_eq_ok_iff.mpr ⟨noZero, short, some_path, left, ?_⟩
  unfold start at way ⊢
  rw [← current]
  exact way.mono within

/-- A path leads to something. -/
theorem WellFormed.exists_kind (wellFormed : system.WellFormed)
    (located : system.locate path = .ok place) : ∃ kind, system.kindAt? place = some kind := by
  obtain ⟨_, _, _, left, way⟩ := locate_eq_ok_iff.mp located
  refine way.exists_kind ?_
  unfold start
  split
  · exact ⟨_, rfl⟩
  · exact ⟨_, wellFormed.current.choose_spec⟩

/-- There is a way to a place along the steps of a path to it, without the one for a slash at the
end. -/
theorem leads_approach (located : system.locate path = .ok place) :
    ∃ left, system.Leads linkLimit (system.start path) (Path.approach path) left place := by
  obtain ⟨_, _, _, left, way⟩ := locate_eq_ok_iff.mp located
  rcases Path.steps_cases path with same | slashed
  · exact ⟨left, same ▸ way⟩
  · rw [slashed] at way
    obtain ⟨fewer, middle, first, second⟩ := way.split
    cases second with
    | stay _ onward =>
      cases onward
      exact ⟨_, first⟩

/-! ## Below a directory -/

/-- Names that pass no link lead down to where they stand. -/
theorem WellFormed.leads_down (wellFormed : system.WellFormed) {kind : NodeKind}
    (found : system.kindAt? (place ++ names) = some kind) (noLink : ∀ target, kind ≠ .link target)
    (links : Nat) : system.Leads links place (names.map .down) links (place ++ names) := by
  induction names generalizing place with
  | nil =>
    rw [List.append_nil]
    exact .done links place
  | cons name rest ih =>
    have here := directoryAt_of_child found
    have short := (wellFormed.areNames found name List.mem_cons_self).short
    rw [List.append_cons] at found ⊢
    cases rest with
    | nil =>
      rw [List.append_nil] at found ⊢
      exact .down here short found noLink (.done _ _)
    | cons next more =>
      obtain ⟨readable, there⟩ := directoryAt_of_child found
      exact .down here short there nofun (ih found)

/-- A path below a directory leads from there down along the names. -/
theorem leads_of_locate_descend (located : system.locate directory = .ok place)
    (areNames : ∀ name ∈ names, Path.IsName name) (below : names ≠ [])
    (found : system.locate (Path.descend directory names) = .ok last) :
    ∃ links left, system.Leads links place (names.map .down) left last := by
  obtain ⟨_, _, some_path, _⟩ := locate_eq_ok_iff.mp located
  obtain ⟨_, _, _, left, way⟩ := locate_eq_ok_iff.mp found
  obtain ⟨_, approach⟩ := leads_approach located
  unfold start at way approach
  rw [(Path.descend_alike some_path areNames).2.1,
    Path.steps_descend some_path areNames below] at way
  obtain ⟨fewer, middle, first, second⟩ := way.split
  obtain rfl := approach.unique first
  exact ⟨fewer, left, second⟩

/-- Names that pass no link make a path to where they stand, unless it is too long. -/
theorem WellFormed.locate_descend_iff (wellFormed : system.WellFormed)
    (located : system.locate directory = .ok place) {kind : NodeKind}
    (found : system.kindAt? (place ++ names) = some kind)
    (noLink : ∀ target, kind ≠ .link target) :
    system.locate (Path.descend directory names) = .ok (place ++ names) ↔
      (Path.descend directory names).utf8ByteSize ≤ pathLimit := by
  obtain ⟨noZero, short, some_path, _⟩ := locate_eq_ok_iff.mp located
  refine ⟨fun reached => (locate_eq_ok_iff.mp reached).2.1, fun short' => ?_⟩
  by_cases below : names = []
  · rw [below, List.append_nil]
    exact located
  have areNames := wellFormed.areNames found
  obtain ⟨some_path', absolute, zero⟩ := Path.descend_alike some_path areNames
  obtain ⟨left, approach⟩ := leads_approach located
  refine locate_eq_ok_iff.mpr ⟨mt zero.mp noZero, short', some_path', left, ?_⟩
  rw [Path.steps_descend some_path areNames below]
  unfold start at approach ⊢
  rw [absolute]
  exact approach.append (wellFormed.leads_down found noLink left)

/-! ## Links -/

/-- A link leads to a directory, over as many further links as it takes. -/
def LinkToDirectory (system : FileSystem) (link : List String) : Prop :=
  ∃ target links left goal, system.kindAt? link = some (.link target) ∧ target ≠ "" ∧
    system.Leads links (linkBase link.dropLast target) (Path.steps target) left goal ∧
    system.DirectoryAt goal

/-- A path that ends with a link below a directory leads where its target leads. -/
theorem WellFormed.leads_of_link (wellFormed : system.WellFormed)
    (located : system.locate directory = .ok place) {target : String}
    (there : system.kindAt? (place ++ names) = some (.link target)) (below : names ≠ [])
    (found : system.locate (Path.descend directory names) = .ok last) : target ≠ "" ∧
      ∃ links left, system.Leads links (linkBase (place ++ names).dropLast target)
        (Path.steps target) left last := by
  obtain ⟨links, left, way⟩ :=
    leads_of_locate_descend located (wellFormed.areNames there) below found
  obtain ⟨above, name, rfl⟩ : ∃ above name, names = above ++ [name] :=
    ⟨_, _, (List.dropLast_concat_getLast below).symm⟩
  rw [List.map_append] at way
  rw [← List.append_assoc] at there ⊢
  obtain ⟨fewer, middle, first, second⟩ := way.split
  obtain ⟨readable, here⟩ := directoryAt_of_child there
  obtain rfl := (wellFormed.leads_down here nofun links).unique first
  rw [List.dropLast_concat]
  cases second with
  | down _ _ there' noLink _ =>
    exact absurd (Option.some.inj (there'.symm.trans there)) (noLink target)
  | follow _ _ there' some_path along onward =>
    cases there.symm.trans there'
    cases onward
    exact ⟨some_path, _, _, along⟩

/-! ## What is read -/

/-- A path exists when it leads somewhere. -/
theorem pathExists_iff :
    system.pathExists path = true ↔ ∃ place, system.locate path = .ok place := by
  unfold pathExists
  cases system.locate path with
  | error fault => exact ⟨nofun, nofun⟩
  | ok place => exact ⟨fun _ => ⟨place, rfl⟩, fun _ => rfl⟩

/-- What is read at a path depends on what stands where the path leads. -/
theorem readText_of_locate (located : system.locate path = .ok place) : system.readText path =
    match system.nodeAt? place with
    | some (.file content) =>
      match String.fromUTF8? content with
      | some text => .ok text
      | none => .error .invalidText
    | _ => .error .isDirectory := by
  unfold readText
  rw [located]
  rfl

/-- What is read at a path is the text of the file where the path leads. -/
theorem readText_eq_ok_iff {text : String} : system.readText path = .ok text ↔
    ∃ place content, system.locate path = .ok place ∧
      system.kindAt? place = some (.file content) ∧ String.fromUTF8? content = some text := by
  constructor
  · intro read
    cases located : system.locate path with
    | error fault =>
      unfold readText at read
      rw [located] at read
      cases read
    | ok place =>
      rw [readText_of_locate located] at read
      split at read
      · rename_i content found
        split at read
        · rename_i valid
          cases read
          exact ⟨place, content, rfl, congrArg _ found, valid⟩
        · cases read
      · cases read
  · rintro ⟨place, content, located, there, valid⟩
    obtain ⟨node, found, kind⟩ := Option.map_eq_some_iff.mp there
    rw [readText_of_locate located, found]
    cases node with
    | file content' =>
      cases kind
      dsimp only
      rw [valid]
    | directory readable entries => cases kind
    | link target => cases kind

end Covenant.FileSystem
