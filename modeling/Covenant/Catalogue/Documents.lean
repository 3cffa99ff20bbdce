import Covenant.FileSystem.Resolve
import Covenant.Catalogue.Error
import Covenant.Yaml.Records

/-!
# Single documents

Protocols, surfaces and settings read by themselves, from a text or a file. A protocol that is
read in this way is well formed.
-/
namespace Covenant

/-- A protocol, if it is well formed. -/
def Protocol.validate (protocol : Protocol) : Except CatalogueError Protocol :=
  match protocol.fault? with
  | some fault => .error (.invalid (.protocol fault))
  | none => .ok protocol

/-- The well-formed protocol that a text declares. -/
def Protocol.fromText (text : String) : Except CatalogueError Protocol :=
  match Protocol.ofYaml text with
  | .ok protocol => protocol.validate
  | .error error => .error (.yaml error)

/-- The surface that a text describes. -/
def Surface.fromText (text : String) : Except CatalogueError Surface :=
  (Surface.ofYaml text).mapError .yaml

/-- The settings that a text gives. -/
def Settings.fromText (text : String) : Except CatalogueError Settings :=
  (Settings.ofYaml text).mapError .yaml

/-- What a file gives that is read as a text. -/
def FileSystem.readWith {α : Type} (system : FileSystem) (path : String)
    (read : String → Except CatalogueError α) : Except CatalogueError α :=
  match system.readText path with
  | .ok text => read text
  | .error fault => .error (.file fault)

/-- The well-formed protocol that a file declares. -/
def Protocol.fromFile (system : FileSystem) (path : String) : Except CatalogueError Protocol :=
  system.readWith path fromText

/-- The settings that a file gives. -/
def Settings.fromFile (system : FileSystem) (path : String) : Except CatalogueError Settings :=
  system.readWith path fromText

end Covenant
