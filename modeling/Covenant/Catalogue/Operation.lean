import Covenant.Catalogue.Load

/-!
# Operations on a catalogue

Everything that can be done to a catalogue once it is built, as data, so that a history of a
catalogue is a list. An operation that fails leaves whatever its own rules say, and the next one
starts from there.
-/
namespace Covenant

/-- Something that can be done to a catalogue. -/
inductive Operation
  /-- Register a protocol. -/
  | register (protocol : Protocol)
  /-- Register what a YAML text declares. -/
  | registerText (text : String)
  /-- Register what a file declares. -/
  | registerFile (path : String)
  /-- Load a directory. -/
  | loadDirectory (path : String)
  /-- Load the directories on the search path. -/
  | loadAll
  /-- Look a name up, and load a file for it if it stands for nothing. -/
  | resolveOrLoad (name : String)
  /-- Give a protocol another name. -/
  | addAlias (alternate target : String)
  /-- Search one more directory. -/
  | addSearchPath (path : String)

/-- What an operation answers. -/
inductive Answer
  /-- Nothing. -/
  | done
  /-- What registering did. -/
  | outcome (outcome : Outcome)
  /-- How many protocols were declared. -/
  | count (count : Nat)
  /-- The protocol of a name, if there is one. -/
  | protocol (protocol : Option Protocol)

namespace Effect

/-- An effect with its answer changed. -/
def map {α β : Type} (f : α → β) (effect : Effect α) : Effect β :=
  ⟨f effect.result, effect.catalogue, effect.log⟩

end Effect

namespace Catalogue

/-- Perform an operation on a fixed file system. -/
def perform (system : FileSystem) (catalogue : Catalogue) :
    Operation → Effect (Except CatalogueError Answer)
  | .register protocol => (catalogue.register protocol).map (·.map .outcome)
  | .registerText text => (catalogue.registerText text).map (·.map .count)
  | .registerFile path => (catalogue.registerFile system path).map (·.map .count)
  | .loadDirectory path => (catalogue.loadDirectory system path).map (·.map .count)
  | .loadAll => (catalogue.loadAll system).map (·.map .count)
  | .resolveOrLoad name =>
    (catalogue.resolveOrLoad system name).map fun found => .ok (.protocol found)
  | .addAlias alternate target =>
    ⟨.ok .done, catalogue.addAlias alternate target, [.aliasAdded alternate target]⟩
  | .addSearchPath path => ⟨.ok .done, catalogue.addSearchPath path, []⟩

end Catalogue

end Covenant
