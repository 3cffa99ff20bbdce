import Covenant.Yaml.Node
import Covenant.Yaml.Token.Lexer

/-!
# From tokens to a document

The grammar of documents over tokens. A value that is left out is an empty scalar. Each anchored
node gets a number: how many different names were anchored before it. An anchor of a name that
was used before takes over the name, and its number may be given again to the next new name, so
a number stands for the node that took it last.
-/
namespace Covenant.Yaml

/-- The anchors met so far. -/
structure Anchors where
  /-- The number of each name, the latest first. -/
  names : List (List Char × Nat) := []
  /-- How many different names there are. -/
  distinct : Nat := 0
  /-- The numbers given, the latest first, each with the order in which it was given. -/
  given : List (Nat × Nat) := []
  /-- The nodes that were read, with the order in which they were numbered. -/
  nodes : List (Nat × Node) := []

namespace Anchors

/-- The number of a name. -/
def find? (anchors : Anchors) (name : List Char) : Option Nat := anchors.names.lookup name

/-- Give a number to the node that starts here. -/
def start (anchors : Anchors) (name : List Char) : Anchors :=
  { anchors with
    names := (name, anchors.distinct) :: anchors.names
    distinct := if (anchors.find? name).isSome then anchors.distinct else anchors.distinct + 1
    given := (anchors.distinct, anchors.given.length) :: anchors.given }

/-- The node that was numbered in a place of the order has been read. -/
def finish (anchors : Anchors) (order : Nat) (node : Node) : Anchors :=
  { anchors with nodes := (order, node) :: anchors.nodes }

/-- The node of each number: the one that took it last. -/
def table (anchors : Anchors) : List (Nat × Node) :=
  anchors.given.filterMap fun (id, order) => (anchors.nodes.lookup order).map (id, ·)

end Anchors

/-- What the grammar knows between tokens. -/
structure Parse where
  /-- The tokens that are left. -/
  tokens : List Token
  /-- The handles declared and what they stand for, the latest first. -/
  handles : List (List Char × TagBytes) := []
  /-- Whether a version was given. -/
  versioned : Bool := false
  /-- The anchors met so far. -/
  anchors : Anchors := {}

/-- A reader of a part of a document. -/
abbrev Parser := StateT Parse (Except Error)

namespace Parser

/-- The next token. -/
def peek : Parser (Option Token) := return (← get).tokens.head?

/-- Pass over the next token. -/
def skip : Parser Unit := modify fun parse => { parse with tokens := parse.tokens.drop 1 }

/-- The name of an anchor, if one comes next. -/
def anchor? : Parser (Option (List Char)) := do
  match ← peek with
  | some (.anchor name) => skip; return some name
  | _ => return none

/-- The meaning of handles that need no directive. -/
def defaultHandles : List (List Char × TagBytes) :=
  [(['!'], Tag.asciiBytes ['!']), (['!', '!'], Tag.asciiBytes "tag:yaml.org,2002:".toList)]

/-- A tag with the meaning of its handle; a zero byte ends each part of it. -/
def resolveTag (handle : List Char) (suffix : TagBytes) : Parser TagBytes := do
  let suffix := suffix.takeWhile (· ≠ 0)
  if handle.isEmpty then return suffix
  match ((← get).handles ++ defaultHandles).lookup handle with
  | some meaning => return meaning.takeWhile (· ≠ 0) ++ suffix
  | none => throw Error.unknownHandle

/-- A tag, if one comes next. -/
def tag? : Parser (Option TagBytes) := do
  match ← peek with
  | some (.tag handle suffix) => skip; return some (← resolveTag handle suffix)
  | _ => return none

/-- An anchor and a tag in either order, as far as they are there. -/
def properties : Parser (Option (List Char) × Option TagBytes) := do
  match ← anchor? with
  | some name => return (some name, ← tag?)
  | none =>
    let tag ← tag?
    return (← anchor?, tag)

/-- Where a value may come, which collections it may be. -/
structure Place where
  /-- Whether it may start by its indentation. -/
  block : Bool
  /-- Whether it may be a sequence that is not indented, as the value of a key. -/
  indentless : Bool := false

/-- A place inside a flow collection. -/
def inFlow : Place := ⟨false, false⟩

mutual

/-- Read a value. Every step inwards or onwards spends fuel; three for each token are enough. -/
def node : Nat → Place → Parser Node
  | 0, _ => throw Error.expectedValue
  | fuel + 1, place => do
    match ← peek with
    | some (.reference name) =>
      skip
      match (← get).anchors.find? name with
      | some id => return .reference id
      | none => throw Error.unknownAnchor
    | _ =>
      let (anchor, tag) ← properties
      match anchor with
      | none => content fuel place false tag
      | some name =>
        let order := (← get).anchors.given.length
        modify fun parse => { parse with anchors := parse.anchors.start name }
        let node ← content fuel place true tag
        modify fun parse => { parse with anchors := parse.anchors.finish order node }
        return node

/-- Read a value after its anchor and tag. -/
def content : Nat → Place → Bool → Option TagBytes → Parser Node
  | 0, _, _, _ => throw Error.expectedValue
  | fuel + 1, place, anchored, tag => do
    match ← peek with
    | some .blockEntry =>
      if place.indentless then return .sequence tag (← indentlessItems fuel)
      else absent anchored tag
    | some (.scalar style text) => skip; return .scalar tag style text
    | some .flowSequenceStart => skip; return .sequence tag (← flowItems fuel true)
    | some .flowMappingStart => skip; return .mapping tag (← flowEntries fuel true)
    | some .blockSequenceStart =>
      if place.block then
        skip
        return .sequence tag (← blockItems fuel)
      else absent anchored tag
    | some .blockMappingStart =>
      if place.block then
        skip
        return .mapping tag (← blockEntries fuel)
      else absent anchored tag
    | _ => absent anchored tag

/-- A value that is left out; only an anchor or a tag may stand alone. -/
def absent (anchored : Bool) (tag : Option TagBytes) : Parser Node :=
  if anchored || tag.isSome then return .scalar tag .plain [] else throw Error.expectedValue

/-- Read a value, or none before one of some tokens. -/
def nodeUnless : Nat → List Token → Place → Parser Node
  | 0, _, _ => throw Error.expectedValue
  | fuel + 1, stops, place => do
    match ← peek with
    | some token => if stops.contains token then return .empty else node fuel place
    | none => node fuel place

/-- Read the items of an indented sequence. -/
def blockItems : Nat → Parser (List Node)
  | 0 => throw Error.expectedItem
  | fuel + 1 => do
    match ← peek with
    | some .blockEntry =>
      skip
      let item ← nodeUnless fuel [.blockEntry, .blockEnd] ⟨true, false⟩
      return item :: (← blockItems fuel)
    | some .blockEnd => skip; return []
    | _ => throw Error.expectedItem

/-- Read the items of a sequence that is not indented. -/
def indentlessItems : Nat → Parser (List Node)
  | 0 => throw Error.expectedItem
  | fuel + 1 => do
    match ← peek with
    | some .blockEntry =>
      skip
      let item ← nodeUnless fuel [.blockEntry, .key, .value, .blockEnd] ⟨true, false⟩
      return item :: (← indentlessItems fuel)
    | _ => return []

/-- Read the value of a key of an indented mapping. -/
def blockValue : Nat → Parser Node
  | 0 => throw Error.expectedItem
  | fuel + 1 => do
    match ← peek with
    | some .value => skip; nodeUnless fuel [.key, .value, .blockEnd] ⟨true, true⟩
    | _ => return .empty

/-- Read the entries of an indented mapping. -/
def blockEntries : Nat → Parser (List (Node × Node))
  | 0 => throw Error.expectedItem
  | fuel + 1 => do
    match ← peek with
    | some .key =>
      skip
      let key ← nodeUnless fuel [.key, .value, .blockEnd] ⟨true, true⟩
      let value ← blockValue fuel
      return (key, value) :: (← blockEntries fuel)
    | some .blockEnd => skip; return []
    | _ => throw Error.expectedItem

/-- Read the comma before every item or entry but the first. -/
def separator (first : Bool) : Parser Unit := do
  if !first then
    match ← peek with
    | some .flowEntry => skip
    | _ => throw Error.expectedItem

/-- Read the key of a pair that is an item by itself. Where it is left out, the token after it is
lost. -/
def pairKey : Nat → Parser Node
  | 0 => throw Error.expectedItem
  | fuel + 1 => do
    match ← peek with
    | some .value => skip; return .empty
    | some .flowEntry => skip; return .empty
    | some .flowSequenceEnd => skip; return .empty
    | _ => node fuel inFlow

/-- Read the value of a key inside a flow collection, or none before one of some tokens. -/
def flowValue : Nat → List Token → Parser Node
  | 0, _ => throw Error.expectedItem
  | fuel + 1, stops => do
    match ← peek with
    | some .value => skip; nodeUnless fuel stops inFlow
    | _ => return .empty

/-- Read the items of a sequence in brackets. A key with its value is a mapping of one entry. -/
def flowItems : Nat → Bool → Parser (List Node)
  | 0, _ => throw Error.expectedItem
  | fuel + 1, first => do
    if (← peek) = some .flowSequenceEnd then
      skip
      return []
    separator first
    match ← peek with
    | some .flowSequenceEnd => skip; return []
    | some .key =>
      skip
      let key ← pairKey fuel
      let value ← flowValue fuel [.flowEntry, .flowSequenceEnd]
      return .mapping none [(key, value)] :: (← flowItems fuel false)
    | _ =>
      let item ← node fuel inFlow
      return item :: (← flowItems fuel false)

/-- Read the entries of a mapping in braces. A value that is no key is a key without a value. -/
def flowEntries : Nat → Bool → Parser (List (Node × Node))
  | 0, _ => throw Error.expectedItem
  | fuel + 1, first => do
    if (← peek) = some .flowMappingEnd then
      skip
      return []
    separator first
    match ← peek with
    | some .flowMappingEnd => skip; return []
    | some .key =>
      skip
      let key ← nodeUnless fuel [.value, .flowEntry, .flowMappingEnd] inFlow
      let value ← flowValue fuel [.flowEntry, .flowMappingEnd]
      return (key, value) :: (← flowEntries fuel false)
    | _ =>
      let key ← node fuel inFlow
      return (key, .empty) :: (← flowEntries fuel false)

end

/-- Read the directives before a document, and whether there are any. -/
def directives : Nat → Parser Unit
  | 0 => return
  | fuel + 1 => do
    match ← peek with
    | some (.version major minor) =>
      if (← get).versioned then throw Error.repeatedDirective
      if major ≠ 1 ∨ (minor ≠ 1 ∧ minor ≠ 2) then throw Error.unsupportedVersion
      skip
      modify fun parse => { parse with versioned := true }
      directives fuel
    | some (.handle name meaning) =>
      if ((← get).handles.lookup name).isSome then throw Error.repeatedDirective
      skip
      modify fun parse => { parse with handles := (name, meaning) :: parse.handles }
      directives fuel
    | _ => return

/-- Read the node of a document, after its directives and its mark if it has them. -/
def rootNode (fuel : Nat) : Parser Node := do
  match ← peek with
  | some (.version _ _) | some (.handle _ _) | some .documentStart =>
    directives fuel
    if (← peek) ≠ some .documentStart then throw Error.expectedValue
    skip
    match ← peek with
    | none | some (.version _ _) | some (.handle _ _) | some .documentStart | some .documentEnd =>
      return .empty
    | _ => node fuel ⟨true, false⟩
  | none => return .empty
  | _ => node fuel ⟨true, false⟩

/-- Read the one document of a text; a text without tokens is an empty scalar. -/
def document (fuel : Nat) : Parser Document := do
  let root ← rootNode fuel
  if (← get).tokens.any (· ≠ .documentEnd) then throw Error.expectedEnd
  return ⟨root, (← get).anchors.table⟩

end Parser

/-- The one document of a text. -/
def Document.ofText (text : String) : Except Error Document := do
  let tokens ← Token.ofText text
  let (document, _) ← (Parser.document (3 * tokens.length + 8)).run { tokens }
  return document

end Covenant.Yaml
