import Covenant.Yaml.Node.Grammar
import Covenant.Yaml.Resolution

/-!
# Values of a YAML document

The value of a document is what it says without regard to what is expected of it: references are
followed, scalars are resolved, and tags of the document's own are kept. No mapping holds a key
twice, at whatever depth.
-/
namespace Covenant.Yaml

/-- The value of a node. -/
inductive Value
  /-- Nothing. -/
  | null
  /-- A truth value. -/
  | bool (b : Bool)
  /-- An integer of 64 bits. -/
  | integer (i : Int)
  /-- A number. -/
  | real (x : Double)
  /-- A text. -/
  | string (s : String)
  /-- Values in order. -/
  | sequence (items : List Value)
  /-- Keys with their values, in order. -/
  | mapping (entries : List (Value × Value))
  /-- A value with a tag of the document's own. -/
  | tagged (tag : String) (value : Value)

namespace Value

instance : Inhabited Value := ⟨null⟩

/-- A value without its tag. -/
def untagged : Value → Value
  | tagged _ value => value.untagged
  | value => value

/-- A tag without an exclamation mark at its start. -/
def bareTag (tag : String) : String :=
  match tag.toList with
  | '!' :: c :: rest => String.ofList (c :: rest)
  | _ => tag

mutual

/-- Whether two values are one key. A number without value is one with itself, and the order of
entries does not matter. -/
def same : Value → Value → Bool
  | null, null => true
  | bool b, bool c => b == c
  | integer i, integer j => i == j
  | real x, real y => (x.isNaN && y.isNaN) || x == y
  | string s, string t => s == t
  | sequence items, sequence others => sameItems items others
  | mapping entries, mapping others =>
    entries.length == others.length && sameEntries entries others
  | tagged tag value, tagged other content => bareTag tag == bareTag other && same value content
  | _, _ => false

/-- Whether values are the same in order. -/
def sameItems : List Value → List Value → Bool
  | [], [] => true
  | item :: items, other :: others => same item other && sameItems items others
  | _, _ => false

/-- Whether each entry has one with the same key and value among others. -/
def sameEntries : List (Value × Value) → List (Value × Value) → Bool
  | [], _ => true
  | (key, value) :: rest, others =>
    others.any (fun (otherKey, otherValue) => same key otherKey && same value otherValue) &&
      sameEntries rest others

end

/-- Whether a mapping has a text as a key. -/
def hasKey (value : Value) (name : String) : Bool :=
  match value.untagged with
  | mapping entries => entries.any fun entry => match entry.1 with
    | string s => s == name
    | _ => false
  | _ => false

end Value

/-- A reader of a document that counts how many references it may still follow. -/
abbrev Following (ε : Type) := StateT Nat (Except ε)

namespace Document

/-- How many references a document may lead to. -/
def referenceLimit (document : Document) : Nat := 100 * document.root.eventCount

/-- The node that a node stands for. -/
def follow {ε : Type} (document : Document) (tooMany : ε) (node : Node) : Following ε Node := do
  match node with
  | .reference id =>
    match ← get, document.anchors.lookup id with
    | left + 1, some target => set left; return target
    | _, _ => throw tooMany
  | other => return other

/-- What a reader finds in a document. -/
def run {ε α : Type} (document : Document) (reader : Following ε α) : Except ε α :=
  (·.1) <$> StateT.run reader document.referenceLimit

/-- How deeply collections may be nested in a value. -/
def depthLimit : Nat := 128

/-- The tags that every document knows, for what a plain scalar may mean. -/
def coreTag (name : String) : TagBytes := Tag.asciiBytes ("tag:yaml.org,2002:" ++ name).toList

/-- An integer of 64 bits. -/
def integerValue (i : Int) : Except Error Value :=
  if -(Nat.pow 2 63 : Int) ≤ i ∧ i < Nat.pow 2 64 then .ok (.integer i) else .error .integerRange

/-- The value of a plain scalar. -/
def plainValue (text : List Char) : Except Error Value :=
  match Resolved.ofPlain text with
  | .null => .ok .null
  | .bool b => .ok (.bool b)
  | .integer i => integerValue i
  | .real x => .ok (.real x)
  | .text => .ok (.string (String.ofList text))

/-- The value of a scalar. One of the tags that every document knows says what the scalar has to
mean, quoted or not; under any other it is a text. -/
def scalarValue (tag : Option TagBytes) (style : Style) (text : List Char) :
    Except Error Value :=
  match tag with
  | none => if style = .plain then plainValue text else .ok (.string (String.ofList text))
  | some tag =>
    if tag = coreTag "bool" then
      match Resolved.bool? text with
      | some b => .ok (.bool b)
      | none => .error .unfitForTag
    else if tag = coreTag "int" then
      match Resolved.integer? text with
      | some i => integerValue i
      | none => .error .unfitForTag
    else if tag = coreTag "float" then
      match Resolved.real? text with
      | some x => .ok (.real x)
      | none => .error .unfitForTag
    else if tag = coreTag "null" then
      if Resolved.isNull text then .ok .null else .error .unfitForTag
    else if tag.head? = some 0x21 ∧ style = .plain then plainValue text
    else .ok (.string (String.ofList text))

/-- Entries in order, none of whose keys was there before. -/
def distinctEntries (read : Node → Following Error Value) :
    List (Value × Value) → List (Node × Node) → Following Error (List (Value × Value))
  | seen, [] => return seen.reverse
  | seen, (keyNode, valueNode) :: rest => do
    let key ← read keyNode
    if seen.any fun entry => entry.1.same key then throw .repeatedKey
    let value ← read valueNode
    distinctEntries read ((key, value) :: seen) rest

/-- The value of a node that is no reference, given a reader of the nodes in it if it may have
any. -/
def contentValue (inner : Option (Node → Following Error Value)) (node : Node) :
    Following Error Value := do
  match node, inner with
  | .reference _, _ => throw .tooDeep
  | .scalar tag style text, _ => scalarValue tag style text
  | .sequence _ items, some read => return .sequence (← items.mapM read)
  | .mapping _ entries, some read => return .mapping (← distinctEntries read [] entries)
  | _, none => throw .tooDeep

/-- The value of a node that may nest collections to a depth. -/
def nodeValue (document : Document) : Nat → Node → Following Error Value
  | depth, node => do
    let node ← document.follow (.unreadable .tooManyReferences) node
    let inner := match depth with
      | 0 => none
      | depth + 1 => some (document.nodeValue depth)
    match node.ownTag? with
    | some tag => return .tagged tag (← contentValue inner node.untagged)
    | none => contentValue inner node

/-- The value of a document. -/
def value (document : Document) : Except Error Value :=
  document.run (document.nodeValue depthLimit document.root)

end Document

end Covenant.Yaml
