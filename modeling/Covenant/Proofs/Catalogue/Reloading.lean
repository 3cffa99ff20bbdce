import Covenant.Proofs.Catalogue.OrderIndependence

/-!
# Loading once more

In a strict catalogue loading the same files once more changes nothing. A file that was accepted
declares protocols which are held from then on, so it is accepted again without effect; a file that
was refused is refused again, because a catalogue that grew admits no more than it did before. Both
hold of every later catalogue, hence of the one at the end of the whole load
(`Catalogue.visit_again`), whatever comes between the two visits of a file.
-/
namespace Covenant.Catalogue

variable {catalogue earlier last : Catalogue} {protocols : List Protocol}

/-! ## What registrations keep -/

/-- Registering protocols keeps the mode. -/
theorem Registers.strict (registers : Registers catalogue protocols last)
    (strict : catalogue.allowRedeclaration = false) : last.allowRedeclaration = false :=
  registers.preserves (motive := fun reached => reached.allowRedeclaration = false)
    (fun strict _ => allowRedeclaration_apply.trans strict) strict

/-- Registering protocols keeps the search paths. -/
theorem Registers.searchPaths_eq (registers : Registers catalogue protocols last) :
    last.searchPaths = catalogue.searchPaths :=
  registers.preserves (motive := fun reached => reached.searchPaths = catalogue.searchPaths)
    (fun same _ => searchPaths_apply.trans same) rfl

/-- Protocols that are held are registered without effect. -/
theorem registers_of_holds (holds : ∀ protocol ∈ protocols, catalogue.Holds protocol) :
    Registers catalogue protocols catalogue := by
  have unchanged : catalogue.registerEach protocols = ⟨.ok (), catalogue, []⟩ := by
    induction protocols with
    | nil => rfl
    | cons protocol rest ih =>
      obtain ⟨first, others⟩ := List.forall_mem_cons.mp holds
      unfold registerEach
      rw [first.register]
      simp only [ih others, List.nil_append]
  have registers := registers_registerEach (congrArg Effect.result unchanged)
  rwa [unchanged] at registers

/-- What a catalogue registers after it grew, it would have registered before. -/
theorem Extends.registers_before (grows : last.Extends earlier)
    (strict : earlier.allowRedeclaration = false) (still : last.allowRedeclaration = false)
    (later : ∃ reached, Registers last protocols reached) :
    ∃ reached, Registers earlier protocols reached := by
  rw [exists_registers_iff_pairwise still] at later
  rw [exists_registers_iff_pairwise strict]
  exact ⟨fun protocol member => grows.admits (later.1 protocol member), later.2⟩

/-! ## Declarations -/

/-- Declared protocols that are registered are counted. -/
theorem registerDeclarations_of_registers {declarations : Declarations}
    (registers : Registers catalogue declarations.protocols last) :
    (catalogue.registerDeclarations declarations).result = .ok declarations.protocols.length ∧
      (catalogue.registerDeclarations declarations).catalogue = last := by
  cases declarations with
  | single protocol =>
    cases registers with
    | cons accepts others =>
      cases others
      simp only [registerDeclarations, register_of_accepts accepts, and_true]
      rfl
  | list protocols => exact registerList_of_registers registers

/-- Declared protocols that are not all registered are refused, and nothing changes. -/
theorem registerDeclarations_of_refused {declarations : Declarations}
    (refused : ¬∃ reached, Registers catalogue declarations.protocols reached) :
    ∃ error, (catalogue.registerDeclarations declarations).result = .error error ∧
      (catalogue.registerDeclarations declarations).catalogue = catalogue :=
  (registerDeclarations_cases catalogue declarations).resolve_left
    fun ⟨_, _, registers⟩ => refused ⟨_, registers⟩

/-- An effect is repeated in a catalogue: it is refused again, or has the same answer, and either
way it changes nothing. -/
structure Repeats {ε α : Type} (catalogue : Catalogue) (again first : Effect (Except ε α)) :
    Prop where
  /-- The answers agree, if there are any. -/
  answer : again.result.toOption = first.result.toOption
  /-- Nothing changes. -/
  unchanged : again.catalogue = catalogue

/-- Once a catalogue grew out of what registering declarations left, registering them is
repeated. -/
theorem registerDeclarations_again {declarations : Declarations}
    (grows : last.Extends (earlier.registerDeclarations declarations).catalogue)
    (strict : earlier.allowRedeclaration = false) (still : last.allowRedeclaration = false) :
    last.Repeats (last.registerDeclarations declarations)
      (earlier.registerDeclarations declarations) := by
  by_cases accepted : ∃ reached, Registers earlier declarations.protocols reached
  · obtain ⟨reached, registers⟩ := accepted
    obtain ⟨answer, ended⟩ := registerDeclarations_of_registers registers
    rw [ended] at grows
    have holds := (registers.extends strict).2
    obtain ⟨answer', ended'⟩ := registerDeclarations_of_registers <|
      registers_of_holds fun protocol member => grows.holds (holds protocol member)
    exact ⟨by rw [answer, answer'], ended'⟩
  · obtain ⟨error, answer, ended⟩ := registerDeclarations_of_refused accepted
    rw [ended] at grows
    obtain ⟨error', answer', ended'⟩ := registerDeclarations_of_refused fun later =>
      accepted (grows.registers_before strict still later)
    exact ⟨by rw [answer, answer']; rfl, ended'⟩

/-! ## Files -/

variable {system : FileSystem}

/-- Once a catalogue grew out of what registering a file left, registering it is repeated. -/
theorem registerFile_again {path : String}
    (grows : last.Extends (earlier.registerFile system path).catalogue)
    (strict : earlier.allowRedeclaration = false) (still : last.allowRedeclaration = false) :
    last.Repeats (last.registerFile system path) (earlier.registerFile system path) := by
  unfold registerFile at grows ⊢
  cases read : system.readText path with
  | error fault => exact ⟨rfl, rfl⟩
  | ok text =>
    simp only [read, registerText] at grows ⊢
    cases parsed : Declarations.ofYaml text with
    | error error => exact ⟨rfl, rfl⟩
    | ok declarations =>
      simp only [parsed] at grows
      exact registerDeclarations_again grows strict still

/-- Once a catalogue grew out of what visits left, doing them again answers alike and changes
nothing. -/
theorem visit_again {visits : List Visit}
    (grows : last.Extends (earlier.visit system visits).catalogue)
    (strict : earlier.allowRedeclaration = false) (still : last.allowRedeclaration = false) :
    (last.visit system visits).result = (earlier.visit system visits).result ∧
      (last.visit system visits).catalogue = last := by
  induction visits generalizing earlier with
  | nil => exact ⟨rfl, rfl⟩
  | cons first rest ih =>
    cases first with
    | fail fault => exact ⟨rfl, rfl⟩
    | passOver path => exact ih grows strict
    | register path =>
      -- The end of the visits grew out of what the first file left.
      have middle : Registers earlier _ (earlier.tryFile system path).catalogue :=
        registers_tryFile path
      have others : Registers (earlier.tryFile system path).catalogue _
          ((earlier.tryFile system path).catalogue.visit system rest).catalogue :=
        registers_visit rest
      have grown := grows.trans (others.extends (middle.strict strict)).1
      rw [catalogue_tryFile] at grown
      have again := registerFile_again grown strict still
      have unchanged : (last.tryFile system path).catalogue = last :=
        (catalogue_tryFile last path).trans again.unchanged
      have answer : (last.tryFile system path).result = (earlier.tryFile system path).result := by
        rw [result_tryFile, result_tryFile, again.answer]
      obtain ⟨counts, ended⟩ := ih grows (middle.strict strict)
      simp only [visit, unchanged, answer, counts, ended, and_self]

/-- Once a catalogue grew out of what loading directories left, loading them again answers alike
and changes nothing. -/
theorem loadEach_again {paths : List String}
    (grows : last.Extends (earlier.loadEach system paths).catalogue)
    (strict : earlier.allowRedeclaration = false) (still : last.allowRedeclaration = false) :
    (last.loadEach system paths).result = (earlier.loadEach system paths).result ∧
      (last.loadEach system paths).catalogue = last := by
  induction paths generalizing earlier with
  | nil => exact ⟨rfl, rfl⟩
  | cons path rest ih =>
    have middle : Registers earlier _ (earlier.loadDirectory system path).catalogue :=
      registers_visit _
    unfold loadEach at grows ⊢
    cases answer : (earlier.loadDirectory system path).result with
    | error error =>
      simp only [answer] at grows ⊢
      obtain ⟨counts, ended⟩ := visit_again grows strict still
      unfold loadDirectory at answer ⊢
      simp only [counts, answer, ended, and_self]
    | ok count =>
      simp only [answer] at grows ⊢
      have others : Registers (earlier.loadDirectory system path).catalogue _
          ((earlier.loadDirectory system path).catalogue.loadEach system rest).catalogue :=
        registers_loadEach rest
      have grown := grows.trans (others.extends (middle.strict strict)).1
      obtain ⟨counts, ended⟩ := visit_again grown strict still
      obtain ⟨counts', ended'⟩ := ih grows (middle.strict strict)
      unfold loadDirectory at answer counts' ⊢
      simp only [counts, answer, ended, counts', ended', and_self]

/-- In a strict catalogue loading is idempotent: loading everything on the search path twice in a
row, the second load answers as the first one did and changes nothing. -/
theorem loadAll_loadAll_of_strict (catalogue : Catalogue) (system : FileSystem)
    (strict : catalogue.allowRedeclaration = false) :
    ((catalogue.loadAll system).catalogue.loadAll system).result =
        (catalogue.loadAll system).result ∧
      ((catalogue.loadAll system).catalogue.loadAll system).catalogue =
        (catalogue.loadAll system).catalogue := by
  have registers : Registers catalogue _ (catalogue.loadAll system).catalogue :=
    registers_loadEach catalogue.searchPaths
  have searched : (catalogue.loadAll system).catalogue.searchPaths = catalogue.searchPaths :=
    registers.searchPaths_eq
  have grows : (catalogue.loadAll system).catalogue.Extends
    (catalogue.loadEach system catalogue.searchPaths).catalogue := .refl _
  have again := loadEach_again grows strict (registers.strict strict)
  unfold loadAll at searched again ⊢
  rw [searched]
  exact again

/-- A directory with a protocol, a list one of whose entries has a taken alias, and a directory
with a protocol of the same name as one in that list. -/
def overlappingFiles : FileSystem where
  root := .directory true [("protocols", .directory true [
    ("list.yaml", .file <| String.toUTF8 <| "protocols:\n- name: A\n  methods:\n  - name: a\n" ++
      "- name: B\n  aliases: [Shut]\n  methods:\n  - name: b\n"),
    ("io", .directory true [("a.yml", .file <| String.toUTF8 <|
      "protocol:\n  name: A\n  methods:\n  - name: a\n    returns: bool\n")]),
    ("close.yaml", .file <| String.toUTF8 <|
      "protocol:\n  name: Closable\n  methods:\n  - name: close\n")])]

/-- The directory is searched twice, the one in it once more, and an alias leads nowhere. -/
def overlappingHistory : List Event := [
  ⟨overlappingFiles, .addSearchPath "protocols"⟩, ⟨overlappingFiles, .addSearchPath "protocols/io"⟩,
  ⟨overlappingFiles, .addSearchPath "./protocols/"⟩, ⟨overlappingFiles, .addAlias "Shut" "Absent"⟩]

/-- The first load counts two protocols, each once for every search path above it, and refuses the
list each time. The second load counts the same and changes nothing. -/
theorem loadAll_loadAll_of_strict_overlapping :
    let reached := standard.through overlappingHistory
    let loaded := reached.loadAll overlappingFiles
    reached.allowRedeclaration = false ∧ loaded.result = .ok 5 ∧
      loaded.catalogue.protocols.size = 8 ∧
      (loaded.catalogue.loadAll overlappingFiles).result = .ok 5 ∧
      (loaded.catalogue.loadAll overlappingFiles).catalogue = loaded.catalogue := by
  intro reached loaded
  obtain ⟨answer, unchanged⟩ := loadAll_loadAll_of_strict reached overlappingFiles rfl
  have evaluated : (loaded.result.toOption, loaded.catalogue.protocols.size) = (some 5, 8) := by
    decide +kernel
  obtain ⟨counted, size⟩ := Prod.mk.inj evaluated
  have counts : loaded.result = .ok 5 := eq_ok_of_toOption counted
  exact ⟨rfl, counts, size, answer.trans counts, unchanged⟩

end Covenant.Catalogue
