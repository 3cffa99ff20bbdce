import Covenant.Yaml.Scalar

/-!
# The tree of a YAML document

A document is a tree of nodes together with the nodes that its references stand for. A reference
may stand for a node that holds it. `Document.follow` counts the references it follows: a
document may lead to no more than a hundred of them for each event that writes it, so reading
one ends.
-/
namespace Covenant.Yaml

/-- A node of a document. -/
inductive Node
  /-- A reference to an anchored node. -/
  | reference (id : Nat)
  /-- A scalar. -/
  | scalar (tag : Option (List UInt8)) (style : Style) (text : List Char)
  /-- Nodes in order. -/
  | sequence (tag : Option (List UInt8)) (items : List Node)
  /-- Keys with their values, in order. -/
  | mapping (tag : Option (List UInt8)) (entries : List (Node × Node))

namespace Node

instance : Inhabited Node := ⟨reference 0⟩

/-- A scalar without characters, where a value is left out. -/
def empty : Node := scalar none .plain []

mutual

/-- The events that write a node: one for a scalar or reference, and for a collection one at each
end beside those of its parts. -/
def eventCount : Node → Nat
  | reference _ => 1
  | scalar _ _ _ => 1
  | sequence _ items => 2 + itemEvents items
  | mapping _ entries => 2 + entryEvents entries

/-- The events that write some nodes. -/
def itemEvents : List Node → Nat
  | [] => 0
  | item :: rest => item.eventCount + itemEvents rest

/-- The events that write some keys and values. -/
def entryEvents : List (Node × Node) → Nat
  | [] => 0
  | (key, value) :: rest => key.eventCount + value.eventCount + entryEvents rest

end

/-- The tag of a node. -/
def tag : Node → Option (List UInt8)
  | reference _ => none
  | scalar tag _ _ => tag
  | sequence tag _ => tag
  | mapping tag _ => tag

/-- A node without its tag. -/
def untagged : Node → Node
  | reference id => reference id
  | scalar _ style text => scalar none style text
  | sequence _ items => sequence none items
  | mapping _ entries => mapping none entries

/-- The name in a tag of the document's own: what follows its exclamation mark, or the mark
itself when nothing does. A tag that is no text names nothing. -/
def ownTag? (node : Node) : Option String :=
  match node.tag with
  | some (0x21 :: rest) =>
    String.fromUTF8? ⟨(if rest.isEmpty then [0x21] else rest).toArray⟩
  | _ => none

end Node

/-- A document. -/
structure Document where
  /-- Its node. -/
  root : Node
  /-- The nodes that references stand for. -/
  anchors : List (Nat × Node) := []

end Covenant.Yaml
