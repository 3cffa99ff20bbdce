import Covenant.Json.Printer
import Covenant.Protocol.Document
import Covenant.Settings
import Covenant.Text.Quoted

/-!
# Records as JSON

JSON is read without coercion: a text is a text and nothing else, and a `null` is never an
absent field. A record is an object or an array of its fields in order. A variant is its name, or
an object with its name as the one key. Encoding writes every field, so decoding undoes it.
-/
namespace Covenant

namespace Json

/-- The kind of a value, in a message. -/
def describe : Json → String
  | null => "null"
  | bool b => "boolean `" ++ toString b ++ "`"
  | number (.integer i) => "integer `" ++ toString i ++ "`"
  | number (.real x) => "floating point `" ++ String.ofList (Number.real x).text ++ "`"
  | string s => "string " ++ Text.quote s
  | array _ => "sequence"
  | object _ => "map"

/-- A value is not of the kind that is wanted. -/
def unlike {α : Type} (json : Json) (wanted : String) : Except Fault α :=
  throw (.wrongKind json.describe wanted)

/-- The value as a text, called by the given name in a message. -/
def asText (wanted : String) : Json → Except Fault String
  | string s => pure s
  | other => other.unlike wanted

/-- The value as a truth value. -/
def asFlag : Json → Except Fault Bool
  | bool b => pure b
  | other => other.unlike "a boolean"

/-- The value as a list. -/
def asItems : Json → Except Fault (List Json)
  | array items => pure items
  | other => other.unlike "a sequence"

/-- The value as a map. -/
def asTable : Json → Except Fault (List (String × Json))
  | object members => pure members
  | other => other.unlike "a map"

/-- The value as a record. -/
def asRecord (names : List String) : Json → Except Fault (List (String × Json))
  | object members => pure members
  | array items => Reading.positional names items
  | other => other.unlike "a record"

/-- The value as a variant. -/
def asVariant : Json → Except Fault (Variant Json)
  | string name => pure (.plain name)
  | object [(name, content)] => pure (.carrying name content)
  | other => other.unlike "a variant"

/-- The value as the content of a variant without any. -/
def asNothing : Json → Except Fault Unit
  | null => pure ()
  | other => other.unlike "nothing"

/-- How JSON values answer to the kinds of fields. -/
def reading : Reading (Except Fault) Json where
  text := asText "a string"
  path := asText "path string"
  flag := asFlag
  items := asItems
  table := asTable
  record := asRecord
  variant := asVariant
  nothing := asNothing

end Json

/-- A return kind as JSON. -/
def ReturnKind.toJson : ReturnKind → Json
  | any => .string "any"
  | bool => .string "bool"
  | int => .string "int"
  | float => .string "float"
  | complex => .string "complex"
  | str => .string "str"
  | named name => .object [(namedVariant, .string name)]

/-- A signature as JSON. -/
def Signature.toJson (signature : Signature) : Json :=
  .object [
    ("name", .string signature.name),
    ("params", .ofTexts signature.params),
    ("returns", signature.returns.toJson)]

/-- A protocol as JSON. -/
def Protocol.toJson (protocol : Protocol) : Json :=
  .object [
    ("aliases", .ofTexts protocol.aliases),
    ("description", .string protocol.description),
    ("methods", .array (protocol.methods.map Signature.toJson)),
    ("name", .string protocol.name),
    ("origin", .string protocol.origin.name)]

/-- A surface as JSON. -/
def Surface.toJson (surface : Surface) : Json :=
  .object [
    ("methods", .array (surface.methods.map Signature.toJson)),
    ("name", .string surface.name)]

/-- The members of settings as JSON. -/
def Settings.members (settings : Settings) : NameMap Json :=
  .ofList [
    ("search_paths", .ofTexts settings.searchPaths),
    ("aliases", .object (settings.aliases.entries.map fun entry => (entry.1, .string entry.2))),
    ("allow_redeclaration", .bool settings.allowRedeclaration),
    ("include_standard", .bool settings.includeStandard)]

/-- Settings as JSON. -/
def Settings.toJson (settings : Settings) : Json := .ofMap settings.members

/-- The protocol that a JSON value holds. -/
def Protocol.ofJson (json : Json) : Except Fault Protocol := Json.reading.protocol json

/-- The signature that a JSON value holds. -/
def Signature.ofJson (json : Json) : Except Fault Signature := Json.reading.signature json

/-- The return kind that a JSON value holds. -/
def ReturnKind.ofJson (json : Json) : Except Fault ReturnKind := Json.reading.returnKind json

/-- The origin that a JSON value holds. -/
def Origin.ofJson (json : Json) : Except Fault Origin := Json.reading.origin json

/-- The surface that a JSON value holds. -/
def Surface.ofJson (json : Json) : Except Fault Surface := Json.reading.surface json

/-- The settings that a JSON value holds. -/
def Settings.ofJson (json : Json) : Except Fault Settings := Json.reading.settings json

/-- Values under the names of both maps; where both have a name, that of the overrides. -/
def overlay (defaults overrides : NameMap Json) : NameMap Json :=
  defaults.insertAll overrides.entries

/-- Settings with some of their members overridden. Members that are no settings are passed
over. -/
def Settings.override (settings : Settings) (overrides : NameMap Json) : Except Fault Settings :=
  Settings.ofJson (.ofMap (overlay settings.members overrides))

end Covenant
