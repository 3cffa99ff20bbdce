import Covenant.Protocol.Document
import Covenant.Settings
import Covenant.Yaml.Value

/-!
# Records as YAML

A record is read from a YAML document in one of two ways. Read from its nodes, a text is any
scalar as it is written, and what no field asks for is not looked at. Read from its value, a text
has to be one. Settings, surfaces and a document that declares one protocol are read from nodes, a
list of protocols from the value; which of the two a text declares is seen from its value.
-/
namespace Covenant

namespace Yaml

namespace Document

/-- A node is not of the kind that is wanted. -/
def unlike {α : Type} (wanted : String) : Following Fault α :=
  throw (Fault.wrongKind "other node" wanted)

variable (document : Document)

/-- The node that a node stands for. -/
def target (node : Node) : Following Fault Node := document.follow .tooManyReferences node

/-- The node as a text. -/
def textOf (node : Node) : Following Fault String := do
  match ← document.target node with
  | .scalar _ _ text => return String.ofList text
  | _ => unlike "a string"

/-- The node as a truth value, which only a block of lines with the tag of one may quote. -/
def flagOf (node : Node) : Following Fault Bool := do
  match ← document.target node with
  | .scalar tag style text =>
    if style = .plain ∨ (style = .literal ∧ tag = some (coreTag "bool")) then
      match Resolved.bool? text with
      | some b => return b
      | none => unlike "a boolean"
    else unlike "a boolean"
  | _ => unlike "a boolean"

/-- The node as a list; a value that is left out is an empty one. -/
def itemsOf (node : Node) : Following Fault (List Node) := do
  match ← document.target node with
  | .sequence _ items => return items
  | .scalar _ .plain [] => return []
  | _ => unlike "a sequence"

/-- The node as a map; a value that is left out is an empty one. -/
def tableOf (node : Node) : Following Fault (List (String × Node)) := do
  match ← document.target node with
  | .mapping _ entries => entries.mapM fun entry => do return (← document.textOf entry.1, entry.2)
  | .scalar _ .plain [] => return []
  | _ => unlike "a map"

/-- The node as a variant: the name in its own tag, or else its text. -/
def variantOf (node : Node) : Following Fault (Variant Node) := do
  let node ← document.target node
  match node.ownTag?, node with
  | some name, _ => return .carrying name node.untagged
  | none, .scalar _ _ text => return .plain (String.ofList text)
  | none, _ => unlike "a variant"

/-- The node as the content of a variant without any. -/
def nothingOf (node : Node) : Following Fault Unit := do
  match ← document.target node with
  | .scalar _ .plain text =>
    if text.isEmpty || Resolved.isNull text then return else unlike "nothing"
  | _ => unlike "nothing"

/-- How the nodes of a document answer to the kinds of fields. -/
def reading : Reading (Following Fault) Node where
  text := document.textOf
  path := document.textOf
  flag := document.flagOf
  items := document.itemsOf
  table := document.tableOf
  record _ := document.tableOf
  variant := document.variantOf
  nothing := document.nothingOf

/-- Read a record from the nodes of the document that a text writes. -/
def read {α : Type} (read : Reading (Following Fault) Node → Node → Following Fault α)
    (text : String) : Except Error α := do
  let document ← Document.ofText text
  (document.run (read document.reading document.root)).mapError .unreadable

end Document

namespace Value

/-- A value is not of the kind that is wanted. -/
def unlike {α : Type} (wanted : String) : Except Fault α :=
  throw (Fault.wrongKind "other value" wanted)

/-- The value as a text. -/
def asText (value : Value) : Except Fault String :=
  match value.untagged with
  | string s => .ok s
  | _ => unlike "a string"

/-- The value as a truth value. -/
def asFlag (value : Value) : Except Fault Bool :=
  match value.untagged with
  | bool b => .ok b
  | _ => unlike "a boolean"

/-- The value as a list; nothing is an empty one. -/
def asItems (value : Value) : Except Fault (List Value) :=
  match value.untagged with
  | sequence items => .ok items
  | null => .ok []
  | _ => unlike "a sequence"

/-- Entries whose keys are texts. -/
def namedEntries (entries : List (Value × Value)) : Except Fault (List (String × Value)) :=
  entries.mapM fun entry => return (← entry.1.asText, entry.2)

/-- The value as a map; nothing is an empty one. -/
def asTable (value : Value) : Except Fault (List (String × Value)) :=
  match value.untagged with
  | mapping entries => namedEntries entries
  | null => .ok []
  | _ => unlike "a map"

/-- The value as a variant. -/
def asVariant : Value → Except Fault (Variant Value)
  | tagged tag value => .ok (.carrying (bareTag tag) value)
  | string s => .ok (.plain s)
  | _ => unlike "a variant"

/-- The value as the content of a variant without any. -/
def asNothing (value : Value) : Except Fault Unit :=
  match value.untagged with
  | null => .ok ()
  | _ => unlike "nothing"

/-- How values answer to the kinds of fields. -/
def reading : Reading (Except Fault) Value where
  text := asText
  path := asText
  flag := asFlag
  items := asItems
  table := asTable
  record _ := asTable
  variant := asVariant
  nothing := asNothing

end Value

end Yaml

/-- The protocol that a YAML text declares, well formed or not. -/
def Protocol.ofYaml : String → Except Yaml.Error Protocol :=
  Yaml.Document.read Reading.protocolDocument

/-- The surface that a YAML text describes. -/
def Surface.ofYaml : String → Except Yaml.Error Surface := Yaml.Document.read Reading.surface

/-- The settings that a YAML text gives. -/
def Settings.ofYaml : String → Except Yaml.Error Settings := Yaml.Document.read Reading.settings

/-- What a YAML text declares. -/
inductive Declarations
  /-- One protocol. -/
  | single (protocol : Protocol)
  /-- A list of protocols, to be taken as a whole. -/
  | list (protocols : List Protocol)

/-- What a YAML text declares: one protocol if it has a key for it, and else a list. -/
def Declarations.ofYaml (text : String) : Except Yaml.Error Declarations := do
  let value ← (← Yaml.Document.ofText text).value
  if value.hasKey "protocol" then return .single (← Protocol.ofYaml text)
  else return .list (← (Yaml.Value.reading.protocolList value).mapError .unreadable)

end Covenant
