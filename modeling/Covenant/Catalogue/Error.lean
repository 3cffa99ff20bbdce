import Covenant.Conformance
import Covenant.FileSystem.Basic
import Covenant.Text.Quoted
import Covenant.Yaml.Error

/-!
# Errors of a catalogue

Why a declaration is refused, why a file gives none, and why a surface does not conform. Each
error keeps its cause; the wording is one function of it.
-/
namespace Covenant

/-- A value that is well typed but not acceptable. -/
inductive Invalid
  /-- A protocol that is not well formed. -/
  | protocol (fault : ProtocolFault)
  /-- A configured alias that is blank or stands for itself. -/
  | badAlias (alternate target : String)
  /-- A setting of the wrong kind. -/
  | setting (fault : Fault)
deriving DecidableEq

namespace Invalid

/-- The wording of what is not acceptable. -/
def message : Invalid → String
  | protocol fault => fault.message
  | badAlias alternate target =>
    "invalid alias " ++ Text.quote alternate ++ " for protocol " ++ target
  | setting fault => fault.message

end Invalid

/-- Why a catalogue refuses a declaration. -/
inductive CatalogueError
  /-- The text cannot be read. -/
  | yaml (error : Yaml.Error)
  /-- The file cannot be used. -/
  | file (fault : FileFault)
  /-- The value is not acceptable. -/
  | invalid (cause : Invalid)
  /-- Another contract has the name. -/
  | conflict (name : String)
  /-- Another protocol answers to a name. -/
  | aliasTaken (alternate owner : String)
deriving DecidableEq

namespace CatalogueError

/-- The wording of an error. -/
def message : CatalogueError → String
  | yaml error => "YAML error: " ++ error.message
  | file fault => "IO error: " ++ fault.message
  | invalid cause => "Validation error: " ++ cause.message
  | conflict name => "Conflicting declaration for protocol " ++ name
  | aliasTaken alternate owner =>
    "Alias " ++ alternate ++ " already refers to protocol " ++ owner

end CatalogueError

/-- Why a surface does not conform. -/
inductive ConformanceError
  /-- No protocol answers to the name. -/
  | unknownProtocol (name : String)
  /-- Required methods are not met. -/
  | notConforming (type protocol : String) (mismatches : List Mismatch)
deriving DecidableEq

namespace ConformanceError

/-- The wording of an error. -/
def message : ConformanceError → String
  | unknownProtocol name => "Unknown protocol: " ++ name
  | notConforming type protocol mismatches =>
    type ++ " does not conform to " ++ protocol ++ ": " ++
      "; ".intercalate (mismatches.map Mismatch.message)

end ConformanceError

end Covenant
