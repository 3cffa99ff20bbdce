import Covenant.Document.Reading
import Covenant.Surface

/-!
# Protocols and surfaces in documents

How protocols, signatures and surfaces are laid out as records, whatever the notation: the names
of their fields in order, the defaults of those that may be absent, and the names of the
variants.
-/
namespace Covenant

namespace ReturnKind

/-- The kind of a name that carries no content. -/
def ofName? : String → Option ReturnKind
  | "any" => some any
  | "bool" => some bool
  | "int" => some int
  | "float" => some float
  | "complex" => some complex
  | "str" => some str
  | _ => none

/-- The variant that carries the name of another type. -/
def namedVariant : String := "named"

end ReturnKind

namespace Origin

/-- The origin of a name. -/
def ofName? : String → Option Origin
  | "local" => some own
  | "standard" => some standard
  | _ => none

/-- The name of an origin. -/
def name : Origin → String
  | own => "local"
  | standard => "standard"

end Origin

namespace Reading

variable {m : Type → Type} [Monad m] [MonadExceptOf Fault m] {ν : Type} (reading : Reading m ν)

/-- A variant without content, which may be written with an empty one. -/
def unitVariant {α : Type} (ofName? : String → Option α) (variant : Variant ν) : m α := do
  match variant with
  | .plain name =>
    match ofName? name with
    | some value => pure value
    | none => throw (Fault.unknownVariant name)
  | .carrying name content =>
    match ofName? name with
    | some value => reading.nothing content; pure value
    | none => throw (Fault.unknownVariant name)

/-- Read a return kind: a name, or the variant that carries the name of another type. -/
def returnKind (value : ν) : m ReturnKind := do
  match ← reading.variant value with
  | .plain name => reading.unitVariant ReturnKind.ofName? (.plain name)
  | .carrying name content =>
    if name = ReturnKind.namedVariant then
      return .named (← reading.text content)
    else reading.unitVariant ReturnKind.ofName? (.carrying name content)

/-- Read an origin. -/
def origin (value : ν) : m Origin := do
  reading.unitVariant Origin.ofName? (← reading.variant value)

/-- Read a signature; it has no parameters and returns anything unless it says otherwise. -/
def signature (value : ν) : m Signature := do
  let fields ← reading.record ["name", "params", "returns"] value
  let name ← required fields "name" reading.text
  let params ← optional fields "params" [] (reading.list reading.text)
  let returns ← optional fields "returns" .any reading.returnKind
  return { name, params, returns }

/-- Read a protocol; only its name and its methods have to be present. -/
def protocol (value : ν) : m Protocol := do
  let fields ← reading.record ["name", "aliases", "description", "origin", "methods"] value
  let name ← required fields "name" reading.text
  let aliases ← optional fields "aliases" [] (reading.list reading.text)
  let description ← optional fields "description" "" reading.text
  let origin ← optional fields "origin" .own reading.origin
  let methods ← required fields "methods" (reading.list reading.signature)
  return { name, aliases, description, origin, methods }

/-- Read a surface; only its name has to be present. -/
def surface (value : ν) : m Surface := do
  let fields ← reading.record ["name", "methods"] value
  let name ← required fields "name" reading.text
  let methods ← optional fields "methods" [] (reading.list reading.signature)
  return { name, methods }

/-- Read a document that holds one protocol. -/
def protocolDocument (value : ν) : m Protocol := do
  required (← reading.record ["protocol"] value) "protocol" reading.protocol

/-- Read a document that holds a list of protocols. -/
def protocolList (value : ν) : m (List Protocol) := do
  required (← reading.record ["protocols"] value) "protocols" (reading.list reading.protocol)

end Reading

end Covenant
