import Covenant.Proofs.Catalogue.Searching

/-!
# What loading a name reads

Looking a name up and loading a file for it depends on the contents of the files that may declare
the name and on nothing else of a file system (`Catalogue.resolveOrLoad_congr`). The name may be any
text, and its file is searched by joining the two paths. So the file stands beneath the search path
unless the name is an absolute path or steps above the search path (`Catalogue.strays`); then it is
read wherever it stands (`Catalogue.resolveOrLoad_escapes`).
-/
namespace Covenant.Catalogue

variable {catalogue : Catalogue} {system other : FileSystem} {name path : String}

/-! ## What an operation reads -/

/-- Looking a name up and loading a file for it depends on the contents of the candidates only. -/
theorem resolveOrLoad_congr
    (same : ∀ path ∈ catalogue.candidates name, system.contents? path = other.contents? path) :
    catalogue.resolveOrLoad system name = catalogue.resolveOrLoad other name := by
  unfold resolveOrLoad
  rw [tryFirst_congr fun path looked => same path (tried_subset looked)]

/-! ## Where the candidates stand -/

/-- The candidates of a name that need not stand beneath the search path that they are taken
from. -/
def strays (catalogue : Catalogue) (name : String) : List String :=
  catalogue.searchPaths.flatMap fun path =>
    (fileEndings.filter fun ending => !Path.staysBelow (name ++ ending)).map fun ending =>
      Path.join path (name ++ ending)

/-- A candidate is a stray or stays below a search path. -/
theorem mem_candidates (candidate : path ∈ catalogue.candidates name) :
    path ∈ catalogue.strays name ∨ ∃ directory ∈ catalogue.searchPaths, ∃ file,
      path = Path.join directory file ∧ Path.staysBelow file = true := by
  obtain ⟨directory, searched, member⟩ := List.mem_flatMap.mp candidate
  obtain ⟨ending, is_ending, rfl⟩ := List.mem_map.mp member
  cases stays : Path.staysBelow (name ++ ending) with
  | true => exact .inr ⟨directory, searched, _, rfl, stays⟩
  | false =>
    have kept : ending ∈ fileEndings.filter fun ending => !Path.staysBelow (name ++ ending) :=
      List.mem_filter.mpr ⟨is_ending, by rw [stays]; rfl⟩
    exact .inl (List.mem_flatMap.mpr ⟨directory, searched, List.mem_map.mpr ⟨ending, kept, rfl⟩⟩)

/-- A name that is no absolute path and does not step up has no strays. -/
theorem strays_eq_nil (relative : Path.isAbsolute name = false) (noUp : .up ∉ Path.steps name) :
    catalogue.strays name = [] := by
  have stays : ∀ ending ∈ fileEndings, Path.staysBelow (name ++ ending) = true := by
    intro ending is_ending
    simp only [fileEndings, List.mem_cons, List.not_mem_nil, or_false] at is_ending
    rcases is_ending with rfl | rfl
    · exact Path.staysBelow_append_ending (by decide) (by decide) (by decide) relative noUp
    · exact Path.staysBelow_append_ending (by decide) (by decide) (by decide) relative noUp
  have none : (fileEndings.filter fun ending => !Path.staysBelow (name ++ ending)) = [] := by
    refine List.filter_eq_nil_iff.mpr fun ending is_ending => ?_
    rw [stays ending is_ending]
    decide
  unfold strays
  rw [none]
  simp

/-- Looking a name up and loading a file for it reads nothing but what stands beneath the search
paths and what the strays of the name lead to. So it answers, registers and says the same in two
file systems in which the same stands beneath the search paths, and no link, if their strays lead to
the same contents. Names that are no absolute paths and do not step up have no strays. -/
theorem resolveOrLoad_confined (catalogue : Catalogue) (name : String) (system other : FileSystem)
    (same : ∀ path ∈ catalogue.searchPaths, system.SameBeneath other path)
    (linkFree : ∀ path ∈ catalogue.searchPaths, system.LinkFree path) :
    ((∀ path ∈ catalogue.strays name, system.contents? path = other.contents? path) →
      catalogue.resolveOrLoad system name = catalogue.resolveOrLoad other name) ∧
    (Path.isAbsolute name = false → .up ∉ Path.steps name → catalogue.strays name = []) := by
  refine ⟨fun alike => resolveOrLoad_congr fun path candidate => ?_, strays_eq_nil⟩
  rcases mem_candidates candidate with stray | ⟨directory, searched, file, rfl, stays⟩
  · exact alike path stray
  · exact FileSystem.contents?_join_of_sameBeneath stays (same directory searched)
      (linkFree directory searched)

/-- The file of a protocol with some name. -/
def fileOf (name : String) : FileNode :=
  .file <| String.toUTF8 <| "protocol:\n  name: " ++ name ++ "\n  methods:\n  - name: m\n"

/-- A directory with a file for a name that leads through another directory. -/
def searchedNode : FileNode :=
  .directory true [("x.yaml", fileOf "a/../x"), ("a", .directory true [])]

/-- No link stands in the directory. -/
theorem searchedNode_linkFree (names : List String) (target : String) :
    (searchedNode.below? names).map FileNode.kind ≠ some (.link target) := by
  have wellFormed : searchedNode.WellFormed := by
    refine .directory _ _ (by decide) (by decide) ?_
    simp only [List.forall_mem_cons]
    exact ⟨.file _, .directory _ _ .nil nofun nofun, List.forall_mem_nil _⟩
  apply wellFormed.kind_ne_link
  simp [searchedNode, fileOf, FileNode.places, FileNode.entryPlaces]

/-- The directory beside a file that nothing is known of elsewhere. -/
def searchedFiles : FileSystem where
  root := .directory true [("protocols", searchedNode), ("x.yaml", fileOf "Outside")]

/-- The directory in another place. -/
def movedFiles : FileSystem where
  root := .directory true [("work", .directory true [("protocols", searchedNode)])]
  current := ["work"]

/-- The name goes down and up again, and its file is found in both file systems, although one of
them is no part of the other. -/
theorem resolveOrLoad_confined_within :
    let catalogue := empty.addSearchPath "protocols"
    searchedFiles.SameBeneath movedFiles "protocols" ∧ searchedFiles.LinkFree "protocols" ∧
      searchedFiles.pathExists "x.yaml" = true ∧ movedFiles.pathExists "x.yaml" = false ∧
      catalogue.strays "a/../x" = [] ∧ catalogue.strays "x" = [] ∧
      (catalogue.resolveOrLoad searchedFiles "a/../x").result.isSome = true ∧
      catalogue.resolveOrLoad searchedFiles "a/../x" =
        catalogue.resolveOrLoad movedFiles "a/../x" := by
  intro catalogue
  have searched : searchedFiles.base? "protocols" = some ["protocols"] := by decide +kernel
  have moved : movedFiles.base? "protocols" = some ["work", "protocols"] := by decide +kernel
  have same : searchedFiles.SameBeneath movedFiles "protocols" := by
    intro names _
    rw [FileSystem.beneath?_of_nodeAt? searched rfl, FileSystem.beneath?_of_nodeAt? moved rfl]
  have linkFree : searchedFiles.LinkFree "protocols" := by
    intro names _ target
    rw [FileSystem.beneath?_of_nodeAt? searched rfl]
    exact searchedNode_linkFree names target
  obtain ⟨confined, -⟩ := resolveOrLoad_confined catalogue "a/../x" searchedFiles movedFiles
    (List.forall_mem_singleton.mpr same) (List.forall_mem_singleton.mpr linkFree)
  have contained : catalogue.strays "a/../x" = [] := by decide +kernel
  have alike := confined (contained ▸ List.forall_mem_nil _)
  have plain := (resolveOrLoad_confined catalogue "x" searchedFiles movedFiles
    (List.forall_mem_singleton.mpr same) (List.forall_mem_singleton.mpr linkFree)).2
    (by decide) (by decide +kernel)
  exact ⟨same, linkFree, by decide +kernel, by decide +kernel, contained, plain, by decide +kernel,
    alike⟩

/-- A directory to be searched that is empty, and what stands beside it. -/
def besideEmpty (beside : List (String × FileNode)) : FileSystem where
  root := .directory true (("protocols", .directory true []) :: beside)

/-- Files that stand outside of the only search path are read and registered, one for a name that
steps above the search path and one for a name that is an absolute path. Without the files the names
stand for nothing, although the same stands beneath the search path, namely nothing, and there are
no links. -/
theorem resolveOrLoad_escapes :
    let catalogue := empty.addSearchPath "protocols"
    let files := besideEmpty [("x.yaml", fileOf "../x"), ("y.yaml", fileOf "/y")]
    let fewer := besideEmpty []
    files.SameBeneath fewer "protocols" ∧
      (∀ place target, files.kindAt? place ≠ some (.link target)) ∧
      (∀ place target, fewer.kindAt? place ≠ some (.link target)) ∧
      (catalogue.resolveOrLoad files "../x").catalogue.names = ["../x"] ∧
      (catalogue.resolveOrLoad fewer "../x").catalogue.names = [] ∧
      (catalogue.resolveOrLoad files "/y").catalogue.names = ["/y"] ∧
      (catalogue.resolveOrLoad fewer "/y").catalogue.names = [] ∧
      (catalogue.resolveOrLoad files "../x").result.isSome = true ∧
      (catalogue.resolveOrLoad fewer "../x").result = none ∧
      (catalogue.resolveOrLoad files "/y").result.isSome = true ∧
      (catalogue.resolveOrLoad fewer "/y").result = none := by
  intro catalogue files fewer
  have searched : files.base? "protocols" = some ["protocols"] := by decide +kernel
  have searched' : fewer.base? "protocols" = some ["protocols"] := by decide +kernel
  have same : files.SameBeneath fewer "protocols" := by
    intro names _
    rw [FileSystem.beneath?_of_nodeAt? searched rfl, FileSystem.beneath?_of_nodeAt? searched' rfl]
  have inside : FileNode.WellFormed (.directory true []) := .directory _ _ .nil nofun nofun
  have linkFree : ∀ place target, files.kindAt? place ≠ some (.link target) := by
    have wellFormed : files.root.WellFormed := by
      refine .directory _ _ (by decide) (by decide) ?_
      simp only [List.forall_mem_cons]
      exact ⟨inside, .file _, .file _, List.forall_mem_nil _⟩
    apply wellFormed.kind_ne_link
    simp [files, besideEmpty, fileOf, FileNode.places, FileNode.entryPlaces]
  have linkFree' : ∀ place target, fewer.kindAt? place ≠ some (.link target) := by
    have wellFormed : fewer.root.WellFormed := by
      refine .directory _ _ (by decide) (by decide) ?_
      simp only [List.forall_mem_cons]
      exact ⟨inside, List.forall_mem_nil _⟩
    apply wellFormed.kind_ne_link
    simp [fewer, besideEmpty, FileNode.places, FileNode.entryPlaces]
  refine ⟨same, linkFree, linkFree', ?_⟩
  decide +kernel

end Covenant.Catalogue
