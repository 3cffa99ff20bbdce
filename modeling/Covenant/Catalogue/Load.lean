import Covenant.Catalogue.Register
import Covenant.FileSystem.Resolve

/-!
# Loading protocols from files

What loading a directory does is planned from the file system alone: the files to register, in
ascending order of their names with the contents of a directory in its place, and the links that
are passed over. Only directories themselves are gone into, never links to them, so a plan is
never longer than the tree. A directory whose path has grown too long to be followed counts as
missing. A file that is refused is logged and passed over; a directory that cannot be listed ends
the load with what was registered before it kept. Following a plan is the same as going into one
directory after another with the catalogue at hand (`Catalogue.loadDirectory_eq_loadBelow`).
-/
namespace Covenant

/-- One thing to do when a directory is loaded. -/
inductive Visit
  /-- Register a file. -/
  | register (path : String)
  /-- Pass over a link to a directory. -/
  | passOver (path : String)
  /-- Fail at a directory that cannot be listed. -/
  | fail (fault : FileFault)
deriving DecidableEq

namespace FileSystem

variable (system : FileSystem)

/-- Whether a path leads to a directory. -/
def leadsToDirectory (path : String) : Bool :=
  match system.locate path with
  | .ok place => (system.nodeAt? place).any FileNode.isDirectory
  | .error _ => false

/-- Register a file if its name is that of a YAML file. -/
def fileVisits (name path : String) : List Visit :=
  if Path.isYaml name then [.register path] else []

mutual

/-- What to do in a directory, given its path. -/
def visits : FileNode → String → List Visit
  | .directory readable entries, path =>
    if readable then (NameMap.ofList (entryVisits entries path)).values.flatten
    else [.fail .permissionDenied]
  | .file _, _ => [.fail .notDirectory]
  | .link _, _ => [.fail .notDirectory]

/-- What to do at each entry of a directory, under the names of the entries. -/
def entryVisits : List (String × FileNode) → String → List (String × List Visit)
  | [], _ => []
  | (name, node) :: rest, path =>
    let inside := Path.join path name
    let own := match node with
      | .directory readable entries =>
        if system.pathExists inside then visits (.directory readable entries) inside else []
      | .link _ =>
        if system.leadsToDirectory inside then [.passOver inside] else fileVisits name inside
      | .file _ => fileVisits name inside
    (name, own) :: entryVisits rest path

end

/-- What to do when a directory is loaded; nothing if it does not exist. -/
def plan (path : String) : List Visit :=
  match system.locate path with
  | .error _ => []
  | .ok place =>
    match system.nodeAt? place with
    | some node => system.visits node path
    | none => []

end FileSystem

namespace Catalogue

/-- Register what a file declares, and count it. -/
def registerFile (system : FileSystem) (catalogue : Catalogue) (path : String) :
    Effect (Except CatalogueError Nat) :=
  match system.readText path with
  | .ok text => catalogue.registerText text
  | .error fault => ⟨.error (.file fault), catalogue, []⟩

/-- Register what a file declares, and log a refusal. -/
def tryFile (system : FileSystem) (catalogue : Catalogue) (path : String) :
    Effect (Option Nat) :=
  let effect := catalogue.registerFile system path
  match effect.result with
  | .ok count => ⟨some count, effect.catalogue, effect.log⟩
  | .error error => ⟨none, effect.catalogue, effect.log ++ [.loadFailed path error]⟩

/-- Do what is planned, and count what is registered. -/
def visit (system : FileSystem) (catalogue : Catalogue) :
    List Visit → Effect (Except CatalogueError Nat)
  | [] => ⟨.ok 0, catalogue, []⟩
  | .fail fault :: _ => ⟨.error (.file fault), catalogue, []⟩
  | .passOver path :: rest =>
    let others := catalogue.visit system rest
    { others with log := .linkPassedOver path :: others.log }
  | .register path :: rest =>
    let first := catalogue.tryFile system path
    let others := first.catalogue.visit system rest
    ⟨others.result.map (first.result.getD 0 + ·), others.catalogue, first.log ++ others.log⟩

/-- Load all protocol files in a directory and the directories in it, and count what they
declare. -/
def loadDirectory (system : FileSystem) (catalogue : Catalogue) (path : String) :
    Effect (Except CatalogueError Nat) :=
  catalogue.visit system (system.plan path)

/-- Load directories in order up to the first that fails. -/
def loadEach (system : FileSystem) (catalogue : Catalogue) :
    List String → Effect (Except CatalogueError Nat)
  | [] => ⟨.ok 0, catalogue, []⟩
  | path :: rest =>
    let first := catalogue.loadDirectory system path
    match first.result with
    | .error error => ⟨.error error, first.catalogue, first.log⟩
    | .ok count =>
      let others := first.catalogue.loadEach system rest
      ⟨others.result.map (count + ·), others.catalogue, first.log ++ others.log⟩

/-- Load the directories on the search path. -/
def loadAll (system : FileSystem) (catalogue : Catalogue) : Effect (Except CatalogueError Nat) :=
  catalogue.loadEach system catalogue.searchPaths

/-- The endings of protocol files, in the order in which they are tried. -/
def fileEndings : List String := [".yaml", ".yml"]

/-- The files that may declare a protocol of a name: one for each search path and ending. -/
def candidates (catalogue : Catalogue) (name : String) : List String :=
  catalogue.searchPaths.flatMap fun path =>
    fileEndings.map fun ending => Path.join path (name ++ ending)

/-- Register the first of some files that exists and is not refused. -/
def tryFirst (system : FileSystem) (catalogue : Catalogue) : List String → Effect Unit
  | [] => ⟨(), catalogue, []⟩
  | path :: rest =>
    if system.pathExists path then
      let first := catalogue.tryFile system path
      if first.result.isSome then ⟨(), first.catalogue, first.log⟩
      else
        let others := first.catalogue.tryFirst system rest
        { others with log := first.log ++ others.log }
    else catalogue.tryFirst system rest

/-- The protocol that a name stands for. If there is none, a file on the search path may declare
it, and the name is looked up once more. -/
def resolveOrLoad (system : FileSystem) (catalogue : Catalogue) (name : String) :
    Effect (Option Protocol) :=
  let loaded : Effect Unit :=
    if (catalogue.resolve name).isSome then ⟨(), catalogue, []⟩
    else catalogue.tryFirst system (catalogue.candidates name)
  ⟨loaded.catalogue.resolve name, loaded.catalogue,
    catalogue.resolveLog name ++ loaded.log ++ loaded.catalogue.resolveLog name⟩

end Catalogue

end Covenant
