import Covenant.Catalogue.Log
import Covenant.NameMap
import Covenant.Settings

/-!
# Catalogues of protocols

A catalogue stores protocols under their canonical names, beside a table of aliases. A look-up
tries the canonical names first. The table may hold aliases of protocols that are not stored, and
aliases that hide behind a canonical name; both matter to what is registered later.
-/
namespace Covenant

/-- Stored protocols and the names they answer to. -/
structure Catalogue where
  /-- The protocols under their canonical names. -/
  protocols : NameMap Protocol := .empty
  /-- Canonical names under aliases. -/
  aliases : NameMap String := .empty
  /-- Directories searched for protocol files, in order. -/
  searchPaths : List String := []
  /-- Whether a different protocol of the same name replaces the one before it. -/
  allowRedeclaration : Bool := false
deriving DecidableEq, Inhabited

/-- What an operation answers, what it leaves, and what it says on the way. -/
structure Effect (α : Type) where
  /-- The answer. -/
  result : α
  /-- The catalogue afterwards. -/
  catalogue : Catalogue
  /-- The records in order. -/
  log : List LogRecord := []

namespace Catalogue

/-- The catalogue without protocols. -/
def empty : Catalogue := {}

variable (catalogue : Catalogue)

/-- The protocol that a name stands for: a canonical name for its own protocol, and else an alias
for the protocol of its target. -/
def resolve (name : String) : Option Protocol :=
  match catalogue.protocols.find? name with
  | some protocol => some protocol
  | none => (catalogue.aliases.find? name).bind catalogue.protocols.find?

/-- What looking a name up says: that it went through an alias, whether or not the target is
stored. -/
def resolveLog (name : String) : List LogRecord :=
  match catalogue.protocols.find? name, catalogue.aliases.find? name with
  | none, some target => [.aliasFollowed name target]
  | _, _ => []

/-- The stored protocols in ascending order of their names. -/
def list : List Protocol := catalogue.protocols.values

/-- The stored protocols of an origin, in the same order. -/
def listByOrigin (origin : Origin) : List Protocol :=
  catalogue.list.filter (·.origin == origin)

/-- The canonical names in ascending order. -/
def names : List String := catalogue.list.map (·.name)

/-- The number of stored protocols. -/
def size : Nat := catalogue.protocols.size

/-- Whether no protocol is stored. -/
def isEmpty : Bool := catalogue.protocols.isEmpty

/-- Give a protocol another name, whatever the name stood for and whether or not the protocol is
stored. -/
def addAlias (alternate target : String) : Catalogue :=
  { catalogue with aliases := catalogue.aliases.insert alternate target }

/-- Search one more directory, after the others. -/
def addSearchPath (path : String) : Catalogue :=
  { catalogue with searchPaths := catalogue.searchPaths ++ [path] }

/-- Store a protocol under its name and its aliases. -/
def store (protocol : Protocol) : Catalogue :=
  { catalogue with
    aliases := catalogue.aliases.insertAll (protocol.aliases.map (·, protocol.name))
    protocols := catalogue.protocols.insert protocol.name protocol }

/-- The catalogue of the standard protocols. -/
def standard : Catalogue := Protocol.standard.foldl store empty

/-- Whether an alias may be configured: it is not blank and does not stand for itself. -/
def acceptsAlias (alternate target : String) : Bool :=
  !Text.isBlank alternate && alternate != target

/-- Give configured names in order, as long as they may be. -/
def addAliases (catalogue : Catalogue) : List (String × String) → Except CatalogueError Catalogue
  | [] => .ok catalogue
  | (alternate, target) :: rest =>
    if acceptsAlias alternate target then (catalogue.addAlias alternate target).addAliases rest
    else .error (.invalid (.badAlias alternate target))

/-- The catalogue that settings ask for before names are given. -/
def ofSettingsBase (settings : Settings) : Catalogue :=
  { (if settings.includeStandard then standard else empty) with
    allowRedeclaration := settings.allowRedeclaration
    searchPaths := settings.searchPaths }

/-- The catalogue that settings ask for, when their aliases are given in some order. -/
def ofSettingsInOrder (settings : Settings) (aliases : List (String × String)) :
    Except CatalogueError Catalogue :=
  (ofSettingsBase settings).addAliases aliases

/-- The catalogue that settings ask for. Search paths are recorded and not searched. -/
def ofSettings (settings : Settings) : Except CatalogueError Catalogue :=
  ofSettingsInOrder settings settings.aliases.entries

/-- What building a catalogue from settings says. -/
def ofSettingsLog (settings : Settings) : List LogRecord :=
  settings.aliases.entries.map fun entry => .aliasAdded entry.1 entry.2

end Catalogue

end Covenant
