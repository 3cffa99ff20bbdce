import Covenant.Catalogue.Basic
import Covenant.Yaml.Records

/-!
# Registering protocols

A protocol is registered when it is well formed and none of its names belongs to another one. The
same contract again changes nothing but adds aliases; another contract of the same name is
refused, or replaces the first where that is allowed. Whether and how a protocol is registered is
decided before anything changes. A list is registered as a whole or not at all, though what was
said on the way stays said.
-/
namespace Covenant

namespace Catalogue

variable (catalogue : Catalogue)

/-- The protocol that keeps a name from being an alias of another one: a stored protocol of that
name, or the one that has the alias. -/
def ownerOfAlias? (protocol alternate : String) : Option String :=
  if alternate ≠ protocol ∧ catalogue.protocols.contains alternate then some alternate
  else (catalogue.aliases.find? alternate).filter (· ≠ protocol)

/-- The first name of a protocol that belongs to another one, and that other. The canonical name
must not be an alias of another; the aliases must be neither aliases nor canonical names of
others. -/
def takenName? (protocol : Protocol) : Option (String × String) :=
  match (catalogue.aliases.find? protocol.name).filter (· ≠ protocol.name) with
  | some owner => some (protocol.name, owner)
  | none => protocol.aliases.findSome? fun alternate =>
    (catalogue.ownerOfAlias? protocol.name alternate).map (alternate, ·)

/-- What registering a protocol would do. -/
def outcome (protocol : Protocol) : Except CatalogueError Outcome :=
  match protocol.fault? with
  | some fault => .error (.invalid (.protocol fault))
  | none =>
    match catalogue.takenName? protocol with
    | some (alternate, owner) => .error (.aliasTaken alternate owner)
    | none =>
      match catalogue.protocols.find? protocol.name with
      | none => .ok .added
      | some existing =>
        if existing.sameContract protocol then .ok .unchanged
        else if catalogue.allowRedeclaration then .ok .replaced
        else .error (.conflict protocol.name)

/-- Append the names that are not in a list yet, each once. -/
def appendNew (names : List String) : List String → List String
  | [] => names
  | name :: rest => appendNew (if names.contains name then names else names ++ [name]) rest

/-- Remember the aliases of a protocol that is stored already. -/
def learnAliases (protocol : Protocol) : Catalogue :=
  { catalogue with
    aliases := protocol.aliases.foldl (·.insertNew · protocol.name) catalogue.aliases
    protocols := match catalogue.protocols.find? protocol.name with
      | some existing => catalogue.protocols.insert protocol.name
          { existing with aliases := appendNew existing.aliases protocol.aliases }
      | none => catalogue.protocols }

/-- Take the aliases of the stored protocol of a name away. -/
def dropAliases (name : String) : Catalogue :=
  match catalogue.protocols.find? name with
  | some old => { catalogue with aliases := old.aliases.foldl (·.erase ·) catalogue.aliases }
  | none => catalogue

/-- The catalogue after registering a protocol with an outcome. -/
def apply (protocol : Protocol) : Outcome → Catalogue
  | .unchanged => catalogue.learnAliases protocol
  | .added | .replaced => (catalogue.dropAliases protocol.name).store protocol

/-- What registering a protocol with an outcome says. -/
def registerLog (protocol : Protocol) : Outcome → List LogRecord
  | .unchanged => []
  | outcome => [.registering protocol.name outcome]

/-- Register a protocol. -/
def register (protocol : Protocol) : Effect (Except CatalogueError Outcome) :=
  match catalogue.outcome protocol with
  | .ok outcome => ⟨.ok outcome, catalogue.apply protocol outcome, registerLog protocol outcome⟩
  | .error error => ⟨.error error, catalogue, []⟩

/-- Register protocols in order up to the first that is refused. -/
def registerEach (catalogue : Catalogue) : List Protocol → Effect (Except CatalogueError Unit)
  | [] => ⟨.ok (), catalogue, []⟩
  | protocol :: rest =>
    let first := catalogue.register protocol
    match first.result with
    | .error error => ⟨.error error, first.catalogue, first.log⟩
    | .ok _ =>
      let others := first.catalogue.registerEach rest
      ⟨others.result, others.catalogue, first.log ++ others.log⟩

/-- Register protocols as a whole, and count them. -/
def registerList (protocols : List Protocol) : Effect (Except CatalogueError Nat) :=
  let staged := catalogue.registerEach protocols
  match staged.result with
  | .ok _ => ⟨.ok protocols.length, staged.catalogue, staged.log⟩
  | .error error => ⟨.error error, catalogue, staged.log⟩

/-- Register what a text declares, and count it. -/
def registerDeclarations : Declarations → Effect (Except CatalogueError Nat)
  | .single protocol =>
    let effect := catalogue.register protocol
    ⟨effect.result.map fun _ => 1, effect.catalogue, effect.log⟩
  | .list protocols => catalogue.registerList protocols

/-- Register what a YAML text declares, and count it. -/
def registerText (text : String) : Effect (Except CatalogueError Nat) :=
  match Declarations.ofYaml text with
  | .ok declarations => catalogue.registerDeclarations declarations
  | .error error => ⟨.error (.yaml error), catalogue, []⟩

end Catalogue

end Covenant
