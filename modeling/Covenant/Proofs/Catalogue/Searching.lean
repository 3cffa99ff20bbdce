import Covenant.Proofs.Catalogue.Reloading
import Covenant.Proofs.FileSystem.Containment

/-!
# Searching for a protocol

A name that stands for nothing is searched for: the files that may declare it are tried in order, up
to the first that loads (`Catalogue.loads`). That file is registered as if the others did not exist,
since those before it are refused without effect and those after it are not looked at
(`Catalogue.tried`). In a strict catalogue searching once more changes nothing, also when the file
does not declare the name and the whole search is gone through again
(`Catalogue.resolveOrLoad_loads_one`).
-/
namespace Covenant.Catalogue

/-- Whether a file exists and what it declares is accepted. -/
def loads (system : FileSystem) (catalogue : Catalogue) (path : String) : Bool :=
  system.pathExists path && (catalogue.registerFile system path).result.toBool

/-- The files that are looked at when files are tried in order: all up to the first that loads. -/
def tried (system : FileSystem) (catalogue : Catalogue) : List String → List String
  | [] => []
  | path :: rest =>
    path :: if catalogue.loads system path then [] else catalogue.tried system rest

variable {system other : FileSystem} {catalogue earlier last : Catalogue} {path name : String}
  {paths rest : List String}

/-! ## One file -/

/-- A file loads when it exists and registering it is not refused. -/
theorem loads_iff : catalogue.loads system path = true ↔
    system.pathExists path = true ∧
      ∃ count, (catalogue.registerFile system path).result = .ok count := by
  unfold loads
  rw [Bool.and_eq_true]
  refine and_congr_right fun _ => ?_
  cases (catalogue.registerFile system path).result with
  | error error => exact ⟨nofun, nofun⟩
  | ok count => exact ⟨fun _ => ⟨count, rfl⟩, fun _ => rfl⟩

/-- A file that does not load leaves the catalogue as it is, if it exists. -/
theorem catalogue_registerFile_of_not_loads (fails : catalogue.loads system path = false)
    (present : system.pathExists path = true) :
    (catalogue.registerFile system path).catalogue = catalogue := by
  cases answer : (catalogue.registerFile system path).result with
  | error error => exact catalogue_registerFile_of_error answer
  | ok count =>
    rw [loads_iff.mpr ⟨present, count, answer⟩] at fails
    cases fails

/-- Whether a file exists, whether it loads, and what trying it does is a matter of its contents. -/
theorem tryFile_of_contents (catalogue : Catalogue)
    (same : system.contents? path = other.contents? path) :
    system.pathExists path = other.pathExists path ∧
      catalogue.loads system path = catalogue.loads other path ∧
      (system.pathExists path = true →
        catalogue.tryFile system path = catalogue.tryFile other path) := by
  unfold FileSystem.contents? at same
  cases here : system.pathExists path <;> cases there : other.pathExists path <;>
    rw [here, there] at same
  · simp [loads, here, there]
  · cases same
  · cases same
  · have read : system.readText path = other.readText path := Option.some.inj same
    simp [loads, tryFile, registerFile, here, there, read]

/-! ## Files in order -/

/-- The first file is registered if it loads. -/
theorem tryFirst_of_loads (loads : catalogue.loads system path = true) :
    catalogue.tryFirst system (path :: rest) = ⟨(),
      (catalogue.registerFile system path).catalogue, (catalogue.tryFile system path).log⟩ := by
  obtain ⟨present, count, answer⟩ := loads_iff.mp loads
  have accepted : (catalogue.tryFile system path).result.isSome = true := by
    rw [result_tryFile, answer]
    rfl
  rw [tryFirst, if_pos present]
  simp only [accepted, ↓reduceIte, catalogue_tryFile]

/-- A file that does not load leaves the others to be tried, and is reported if it exists. -/
theorem tryFirst_of_not_loads (fails : catalogue.loads system path = false) :
    catalogue.tryFirst system (path :: rest) =
      let others := catalogue.tryFirst system rest
      let report := if system.pathExists path then (catalogue.tryFile system path).log else []
      { others with log := report ++ others.log } := by
  rw [tryFirst]
  by_cases present : system.pathExists path = true
  · have unchanged := catalogue_registerFile_of_not_loads fails present
    have refused : (catalogue.tryFile system path).result.isSome = false := by
      unfold loads at fails
      rw [present, Bool.true_and] at fails
      rw [result_tryFile]
      cases answer : (catalogue.registerFile system path).result with
      | error error => rfl
      | ok count =>
        rw [answer] at fails
        cases fails
    simp only [present, refused, ↓reduceIte, Bool.false_eq_true, catalogue_tryFile, unchanged]
  · simp only [present, ↓reduceIte, Bool.false_eq_true, List.nil_append]

/-- Of files that are tried in order the first that loads is registered, and nothing else
happens. -/
theorem catalogue_tryFirst (paths : List String) : (catalogue.tryFirst system paths).catalogue =
    match paths.find? (catalogue.loads system) with
    | some path => (catalogue.registerFile system path).catalogue
    | none => catalogue := by
  induction paths with
  | nil => rfl
  | cons path rest ih =>
    rw [List.find?_cons]
    cases loads : catalogue.loads system path with
    | true => rw [tryFirst_of_loads loads]
    | false =>
      rw [tryFirst_of_not_loads loads]
      exact ih

/-- Only files that are given are looked at. -/
theorem tried_subset : catalogue.tried system paths ⊆ paths := by
  induction paths with
  | nil => exact List.Subset.refl []
  | cons path rest ih =>
    unfold tried
    cases catalogue.loads system path with
    | true => exact List.cons_subset_cons path (List.nil_subset rest)
    | false => exact List.cons_subset_cons path ih

/-- Trying files in order depends on the contents of those that are looked at only. -/
theorem tryFirst_congr
    (same : ∀ path ∈ catalogue.tried system paths, system.contents? path = other.contents? path) :
    catalogue.tryFirst system paths = catalogue.tryFirst other paths := by
  induction paths with
  | nil => rfl
  | cons path rest ih =>
    obtain ⟨first, others⟩ := List.forall_mem_cons.mp same
    obtain ⟨present, alike, tries⟩ := tryFile_of_contents catalogue first
    cases loads : catalogue.loads system path with
    | true =>
      have here := (loads_iff.mp loads).1
      rw [tryFirst_of_loads loads, tryFirst_of_loads (alike ▸ loads), ← catalogue_tryFile,
        ← catalogue_tryFile, tries here]
    | false =>
      rw [loads, if_neg Bool.false_ne_true] at others
      rw [tryFirst_of_not_loads loads, tryFirst_of_not_loads (alike ▸ loads), ih others, ← present]
      by_cases here : system.pathExists path = true
      · rw [tries here]
      · simp only [here, ↓reduceIte, Bool.false_eq_true]

/-! ## Searching once more -/

/-- Once a catalogue grew out of what registering a file left, the file loads if it did before, and
registering it changes nothing. -/
theorem loads_again (grows : last.Extends (earlier.registerFile system path).catalogue)
    (strict : earlier.allowRedeclaration = false) (still : last.allowRedeclaration = false) :
    last.loads system path = earlier.loads system path ∧
      (last.registerFile system path).catalogue = last := by
  obtain ⟨answer, unchanged⟩ := registerFile_again grows strict still
  refine ⟨?_, unchanged⟩
  unfold loads
  congr 1
  cases first : (earlier.registerFile system path).result <;>
    cases again : (last.registerFile system path).result <;> rw [first, again] at answer
  · rfl
  · cases answer
  · cases answer
  · rfl

/-- Once a catalogue grew out of what trying files left, trying them again changes nothing. -/
theorem tryFirst_again (grows : last.Extends (earlier.tryFirst system paths).catalogue)
    (strict : earlier.allowRedeclaration = false) (still : last.allowRedeclaration = false) :
    (last.tryFirst system paths).catalogue = last := by
  induction paths with
  | nil => rfl
  | cons path rest ih =>
    cases loads : earlier.loads system path with
    | true =>
      rw [tryFirst_of_loads loads] at grows
      obtain ⟨again, unchanged⟩ := loads_again grows strict still
      rw [tryFirst_of_loads (again.trans loads)]
      exact unchanged
    | false =>
      rw [tryFirst_of_not_loads loads] at grows
      -- The file was refused by what the catalogue grew out of, so it is refused again.
      have fails : last.loads system path = false := by
        by_cases present : system.pathExists path = true
        · have registers : Registers earlier _ (earlier.tryFirst system rest).catalogue :=
            registers_tryFirst rest
          have unchanged := catalogue_registerFile_of_not_loads loads present
          have grown := grows.trans (registers.extends strict).1
          rw [← unchanged] at grown
          exact (loads_again grown strict still).1.trans loads
        · unfold Catalogue.loads
          rw [Bool.eq_false_iff.mpr present, Bool.false_and]
      rw [tryFirst_of_not_loads fails]
      exact ih grows

/-- In a strict catalogue looking a name up and loading a file for it once more answers alike and
changes nothing. -/
theorem resolveOrLoad_again (strict : catalogue.allowRedeclaration = false) :
    let effect := catalogue.resolveOrLoad system name
    (effect.catalogue.resolveOrLoad system name).result = effect.result ∧
      (effect.catalogue.resolveOrLoad system name).catalogue = effect.catalogue := by
  intro effect
  have unchanged : (effect.catalogue.resolveOrLoad system name).catalogue = effect.catalogue := by
    cases found : effect.catalogue.resolve name with
    | some protocol => simp only [resolveOrLoad, found, Option.isSome_some, ↓reduceIte]
    | none =>
      cases known : catalogue.resolve name with
      | some protocol =>
        have same : effect.catalogue = catalogue := by
          simp only [effect, resolveOrLoad, known, Option.isSome_some, ↓reduceIte]
        rw [same, known] at found
        cases found
      | none =>
        have searched : effect.catalogue =
            (catalogue.tryFirst system (catalogue.candidates name)).catalogue := by
          simp only [effect, resolveOrLoad, known, Option.isSome_none, Bool.false_eq_true,
            ↓reduceIte]
        have registers : Registers catalogue _ effect.catalogue :=
          searched ▸ registers_tryFirst (catalogue.candidates name)
        have candidates : effect.catalogue.candidates name = catalogue.candidates name := by
          unfold Catalogue.candidates
          rw [registers.searchPaths_eq]
        have grows : effect.catalogue.Extends
            (catalogue.tryFirst system (catalogue.candidates name)).catalogue :=
          searched ▸ Extends.refl effect.catalogue
        have again := tryFirst_again grows strict (registers.strict strict)
        simp only [resolveOrLoad, found, Option.isSome_none, Bool.false_eq_true, ↓reduceIte,
          candidates, again]
  have answers (catalogue : Catalogue) : (catalogue.resolveOrLoad system name).result =
      (catalogue.resolveOrLoad system name).catalogue.resolve name := rfl
  exact ⟨by rw [answers, unchanged, answers], unchanged⟩

/-- Looking a name up and loading a file for it applies one file at most. A name that stands for a
protocol is answered with it, and nothing changes. Else the first of the files that may declare it,
two for each search path, that exists and is not refused is registered, and nothing changes if there
is none; files after it are not looked at. Either way the answer is what the name stands for
afterwards. In a strict catalogue doing it once more answers alike and changes nothing. -/
theorem resolveOrLoad_loads_one (catalogue : Catalogue) (system : FileSystem) (name : String) :
    let effect := catalogue.resolveOrLoad system name
    let files := catalogue.searchPaths.flatMap fun path =>
      [Path.join path (name ++ ".yaml"), Path.join path (name ++ ".yml")]
    effect.result = effect.catalogue.resolve name ∧
    (∀ protocol, catalogue.resolve name = some protocol →
      effect.result = some protocol ∧ effect.catalogue = catalogue) ∧
    (catalogue.resolve name = none →
      (∀ path, files.find? (catalogue.loads system) = some path →
        effect.catalogue = (catalogue.registerFile system path).catalogue) ∧
      (files.find? (catalogue.loads system) = none → effect.catalogue = catalogue) ∧
      ∀ other, (∀ path ∈ catalogue.tried system files,
        system.contents? path = other.contents? path) →
          catalogue.resolveOrLoad other name = effect) ∧
    (catalogue.allowRedeclaration = false →
      (effect.catalogue.resolveOrLoad system name).result = effect.result ∧
        (effect.catalogue.resolveOrLoad system name).catalogue = effect.catalogue) := by
  intro effect files
  refine ⟨rfl, fun protocol known => ?_, fun unknown => ?_, resolveOrLoad_again⟩
  · simp only [effect, resolveOrLoad, known, Option.isSome_some, ↓reduceIte, and_self]
  · have searched (system : FileSystem) : (catalogue.resolveOrLoad system name).catalogue =
        (catalogue.tryFirst system files).catalogue := by
      simp only [resolveOrLoad, unknown, Option.isSome_none, Bool.false_eq_true, ↓reduceIte]
      rfl
    have applied := (searched system).trans (catalogue_tryFirst files)
    refine ⟨fun path first => ?_, fun none => ?_, fun other same => ?_⟩
    · rw [first] at applied
      exact applied
    · rw [none] at applied
      exact applied
    · have alike : catalogue.tryFirst other (catalogue.candidates name) =
          catalogue.tryFirst system (catalogue.candidates name) := (tryFirst_congr same).symm
      simp only [effect, resolveOrLoad, alike]

/-- A directory in which one file for a name is refused and the other declares another name. -/
def misleadingNode : FileNode :=
  .directory true [
    ("X.yaml", .file <| String.toUTF8 "protocol: {name: X, methods: []}"),
    ("X.yml", .file <| String.toUTF8 "protocol: {name: Y, methods: [{name: m}]}")]

/-- The directory, and perhaps others. -/
def misleadingFiles (others : List (String × FileNode)) : FileSystem where
  root := .directory true (("early", misleadingNode) :: others)

/-- The search ends with the file that declares another name. So the name stands for nothing, the
second search is gone through again and changes nothing, and the file that declares the name is not
looked at: without its directory the same happens. -/
theorem resolveOrLoad_loads_one_misleading :
    let catalogue := { empty with searchPaths := ["missing", "early", "late"] }
    let files := misleadingFiles [("late", .directory true [
      ("X.yaml", .file <| String.toUTF8 "protocol: {name: X, methods: [{name: m}]}")])]
    let effect := catalogue.resolveOrLoad files "X"
    effect.result = none ∧ effect.catalogue.names = ["Y"] ∧
      (effect.catalogue.resolveOrLoad files "X").result = none ∧
      (effect.catalogue.resolveOrLoad files "X").catalogue = effect.catalogue ∧
      catalogue.loads files "late/X.yaml" = true ∧
      catalogue.resolveOrLoad (misleadingFiles []) "X" = effect := by
  intro catalogue files effect
  obtain ⟨answer, -, searched, again⟩ := resolveOrLoad_loads_one catalogue files "X"
  obtain ⟨applied, -, alike⟩ := searched rfl
  have first := applied "early/X.yml" (by decide +kernel)
  have names : effect.catalogue.names = ["Y"] := by
    rw [first]
    decide +kernel
  have nothing : effect.result = none := by
    rw [answer, first]
    decide +kernel
  obtain ⟨same, unchanged⟩ := again rfl
  have tried : catalogue.tried files (catalogue.candidates "X") =
      ["missing/X.yaml", "missing/X.yml", "early/X.yaml", "early/X.yml"] := by decide +kernel
  have missing (path : String) (absent : files.pathExists path = false)
      (absent' : (misleadingFiles []).pathExists path = false) :
      files.contents? path = (misleadingFiles []).contents? path := by
    simp only [FileSystem.contents?, absent, absent', Bool.false_eq_true, ↓reduceIte]
  have early (name : String)
      (found : (files.locate ("early/" ++ name)).toOption = some ["early", name])
      (found' : ((misleadingFiles []).locate ("early/" ++ name)).toOption =
        some ["early", name]) :
      files.contents? ("early/" ++ name) = (misleadingFiles []).contents? ("early/" ++ name) :=
    FileSystem.contents?_of_kindAt? (eq_ok_of_toOption found) (eq_ok_of_toOption found') rfl
  refine ⟨nothing, names, same.trans nothing, unchanged, by decide +kernel, alike _ ?_⟩
  change ∀ path ∈ catalogue.tried files (catalogue.candidates "X"), _
  rw [tried]
  simp only [List.forall_mem_cons]
  exact ⟨missing _ (by decide +kernel) (by decide +kernel),
    missing _ (by decide +kernel) (by decide +kernel),
    early "X.yaml" (by decide +kernel) (by decide +kernel),
    early "X.yml" (by decide +kernel) (by decide +kernel), List.forall_mem_nil _⟩

end Covenant.Catalogue
