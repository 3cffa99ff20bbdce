import Covenant.Proofs.Yaml.Agreement

/-!
# Values of nodes without references

A node in which nothing is referred to has the same value in every document and whatever the number
of references that may still be followed (`nodeValue_eq_of_anchors`, `run_nodeValue`), and a greater
limit of depth than it needs makes no difference (`nodeValue_succ`). `Says` inverts what a node has
as its value, kind by kind.
-/
namespace Covenant.Yaml

namespace Node

/-- A node in which nothing is referred to. -/
inductive SelfContained : Node → Prop
  /-- A scalar holds no nodes. -/
  | scalar {tag : Option TagBytes} {style : Style} {text : List Char} :
    SelfContained (.scalar tag style text)
  /-- The items of a sequence. -/
  | sequence {tag : Option TagBytes} {items : List Node} :
    (∀ item ∈ items, SelfContained item) → SelfContained (.sequence tag items)
  /-- The keys and the values of a mapping. -/
  | mapping {tag : Option TagBytes} {entries : List (Node × Node)} :
    (∀ entry ∈ entries, SelfContained entry.1) → (∀ entry ∈ entries, SelfContained entry.2) →
      SelfContained (.mapping tag entries)

mutual

/-- How deeply collections are nested in a node. -/
def depth : Node → Nat
  | reference _ => 0
  | scalar _ _ _ => 0
  | sequence _ items => itemDepth items + 1
  | mapping _ entries => entryDepth entries + 1

/-- How deeply collections are nested in some nodes. -/
def itemDepth : List Node → Nat
  | [] => 0
  | item :: rest => max item.depth (itemDepth rest)

/-- How deeply collections are nested in some keys and values. -/
def entryDepth : List (Node × Node) → Nat
  | [] => 0
  | (key, value) :: rest => max (max key.depth value.depth) (entryDepth rest)

end

/-- An item is nested no deeper than its list. -/
theorem depth_le_itemDepth {items : List Node} {item : Node} (member : item ∈ items) :
    item.depth ≤ itemDepth items := by
  induction items with
  | nil => cases member
  | cons head rest ih =>
    rw [itemDepth]
    rcases List.mem_cons.mp member with rfl | later
    · omega
    · have := ih later
      omega

/-- A key and a value are nested no deeper than their list. -/
theorem depth_le_entryDepth {entries : List (Node × Node)} {entry : Node × Node}
    (member : entry ∈ entries) :
    entry.1.depth ≤ entryDepth entries ∧ entry.2.depth ≤ entryDepth entries := by
  induction entries with
  | nil => cases member
  | cons head rest ih =>
    rw [entryDepth]
    rcases List.mem_cons.mp member with rfl | later
    · omega
    · have := ih later
      omega

/-- The tag of a node, unless it is one of the document's own. -/
def sharedTag (node : Node) : Option TagBytes := if node.ownTag?.isSome then none else node.tag

/-- A node without a tag of the document's own. -/
def bare (node : Node) : Node := if node.ownTag?.isSome then node.untagged else node

theorem bare_scalar (tag : Option TagBytes) (style : Style) (text : List Char) :
    (scalar tag style text).bare = scalar (scalar tag style text).sharedTag style text := by
  unfold bare sharedTag
  split <;> rfl

theorem bare_sequence (tag : Option TagBytes) (items : List Node) :
    (sequence tag items).bare = sequence (sequence tag items).sharedTag items := by
  unfold bare sharedTag
  split <;> rfl

theorem bare_mapping (tag : Option TagBytes) (entries : List (Node × Node)) :
    (mapping tag entries).bare = mapping (mapping tag entries).sharedTag entries := by
  unfold bare sharedTag
  split <;> rfl

end Node

namespace Value

/-- A value without parts and without a tag. -/
def IsAtom : Value → Prop
  | sequence _ | mapping _ | tagged _ _ => False
  | _ => True

theorem IsAtom.untagged {value : Value} (atom : value.IsAtom) : value.untagged = value := by
  cases value <;> first | rfl | exact atom.elim

end Value

namespace Document

variable {document other : Document} {node : Node} {value : Value} {depth left last : Nat}

/-- The reader of the nodes inside one that may nest collections to a depth. -/
def inner? (document : Document) : Nat → Option (Node → Following Error Value)
  | 0 => none
  | depth + 1 => some (document.nodeValue depth)

/-- A tag of the document's own is put around a value. -/
def ownTagged (node : Node) (value : Value) : Value :=
  match node.ownTag? with
  | some tag => .tagged tag value
  | none => value

/-- What is no reference stands for itself. -/
theorem follow_of_selfContained {ε : Type} {tooMany : ε} (contained : node.SelfContained) :
    document.follow tooMany node = pure node := by
  cases contained <;> rfl

/-- The value of a node is the value of its content, with its own tag around it. -/
theorem nodeValue_of_selfContained (contained : node.SelfContained) :
    document.nodeValue depth node =
      ownTagged node <$> contentValue (document.inner? depth) node.bare := by
  rw [nodeValue.eq_def]
  simp only [follow_of_selfContained contained, pure_bind]
  unfold Node.bare
  cases own : node.ownTag? with
  | some tag =>
    have wraps : ownTagged node = Value.tagged tag := by
      funext value
      rw [ownTagged, own]
    rw [wraps, map_eq_pure_bind]
    rfl
  | none =>
    have wraps : ownTagged node = id := by
      funext value
      rw [ownTagged, own, id_eq]
    rw [wraps, id_map]
    rfl

/-- Documents with the same anchors give the same values. -/
theorem nodeValue_eq_of_anchors (same : document.anchors = other.anchors) :
    document.nodeValue depth = other.nodeValue depth := by
  induction depth with
  | zero =>
    funext node
    simp only [nodeValue, follow, same]
  | succ depth ih =>
    funext node
    simp only [nodeValue, follow, same, ih]

/-- Items are read alike by readers that are alike on them. -/
theorem mapM_congr {read read' : Node → Following Error Value} {items : List Node}
    (alike : ∀ item ∈ items, read item = read' item) : items.mapM read = items.mapM read' := by
  induction items with
  | nil => rfl
  | cons item rest ih =>
    rw [List.mapM_cons, List.mapM_cons, alike item (.head _),
      ih fun item member => alike item (.tail _ member)]

/-- Entries are read alike by readers that are alike on them. -/
theorem distinctEntries_congr {read read' : Node → Following Error Value}
    {entries : List (Node × Node)} (seen : List (Value × Value))
    (keys : ∀ entry ∈ entries, read entry.1 = read' entry.1)
    (values : ∀ entry ∈ entries, read entry.2 = read' entry.2) :
    distinctEntries read seen entries = distinctEntries read' seen entries := by
  induction entries generalizing seen with
  | nil => rfl
  | cons entry rest ih =>
    have tail := fun seen => ih seen (fun entry member => keys entry (.tail _ member))
      fun entry member => values entry (.tail _ member)
    simp only [distinctEntries, keys entry (.head _), values entry (.head _), tail]

/-- Below a limit that a node keeps to it has the same value as below a greater one. -/
theorem nodeValue_succ (document : Document) (contained : node.SelfContained)
    (within : node.depth ≤ depth) :
    document.nodeValue (depth + 1) node = document.nodeValue depth node := by
  induction contained generalizing depth with
  | scalar =>
    rw [nodeValue_of_selfContained .scalar, nodeValue_of_selfContained .scalar, Node.bare_scalar]
    rfl
  | @sequence tag items each ih =>
    obtain _ | depth := depth
    · simp [Node.depth] at within
    rw [Node.depth] at within
    have alike : ∀ item ∈ items,
        document.nodeValue (depth + 1) item = document.nodeValue depth item := by
      intro item member
      have bound := Node.depth_le_itemDepth member
      exact ih item member (by omega)
    rw [nodeValue_of_selfContained (.sequence each), nodeValue_of_selfContained (.sequence each),
      Node.bare_sequence]
    simp only [contentValue, inner?, mapM_congr alike]
  | @mapping tag entries keys values ih_keys ih_values =>
    obtain _ | depth := depth
    · simp [Node.depth] at within
    rw [Node.depth] at within
    have alike_keys : ∀ entry ∈ entries,
        document.nodeValue (depth + 1) entry.1 = document.nodeValue depth entry.1 := by
      intro entry member
      have bound := Node.depth_le_entryDepth member
      exact ih_keys entry member (by omega)
    have alike_values : ∀ entry ∈ entries,
        document.nodeValue (depth + 1) entry.2 = document.nodeValue depth entry.2 := by
      intro entry member
      have bound := Node.depth_le_entryDepth member
      exact ih_values entry member (by omega)
    rw [nodeValue_of_selfContained (.mapping keys values),
      nodeValue_of_selfContained (.mapping keys values), Node.bare_mapping]
    simp only [contentValue, inner?, distinctEntries_congr [] alike_keys alike_values]

/-! ## Readers that leave the count as it is -/

/-- A reader whose answer does not depend on how many references may still be followed, and that
follows none. -/
def Steady {ε α : Type} (reader : Following ε α) : Prop :=
  ∃ answer : Except ε α, ∀ left, reader.run left = answer.map (·, left)

namespace Steady

variable {ε α β : Type}

protected theorem pure (value : α) : Steady (pure value : Following ε α) :=
  ⟨.ok value, fun _ => rfl⟩

protected theorem throw (error : ε) : Steady (throw error : Following ε α) :=
  ⟨.error error, fun _ => rfl⟩

protected theorem lift (answer : Except ε α) : Steady (liftM answer : Following ε α) :=
  ⟨answer, fun _ => by cases answer <;> rfl⟩

protected theorem bind {reader : Following ε α} {next : α → Following ε β}
    (first : Steady reader) (second : ∀ found, Steady (next found)) :
    Steady (reader >>= next) := by
  obtain ⟨_ | found, answers⟩ := first
  · exact ⟨.error _, fun left => by rw [StateT.run_bind, answers]; rfl⟩
  · obtain ⟨answer, answers_next⟩ := second found
    exact ⟨answer, fun left => by rw [StateT.run_bind, answers, ← answers_next]; rfl⟩

protected theorem mapM {read : Node → Following ε α} {items : List Node}
    (each : ∀ item ∈ items, Steady (read item)) : Steady (items.mapM read) := by
  induction items with
  | nil => exact .pure []
  | cons item rest ih =>
    rw [List.mapM_cons]
    refine (each item (.head _)).bind fun _ => ?_
    exact (ih fun item member => each item (.tail _ member)).bind fun _ => .pure _

/-- What a steady reader finds once it always finds. -/
theorem run_eq {reader : Following ε α} {found : α} {left last : Nat} (steady : Steady reader)
    (read : reader.run left = .ok (found, last)) (left' : Nat) :
    reader.run left' = .ok (found, left') := by
  obtain ⟨_ | answer, answers⟩ := steady
  · rw [answers] at read
    exact nomatch read
  · rw [answers] at read
    rw [answers, ← (Prod.mk.inj (Except.ok.inj read)).1]
    rfl

end Steady

/-- Entries are read by a steady reader of their nodes. -/
theorem steady_distinctEntries {read : Node → Following Error Value} {entries : List (Node × Node)}
    (seen : List (Value × Value)) (keys : ∀ entry ∈ entries, Steady (read entry.1))
    (values : ∀ entry ∈ entries, Steady (read entry.2)) :
    Steady (distinctEntries read seen entries) := by
  induction entries generalizing seen with
  | nil => exact .pure _
  | cons entry rest ih =>
    rw [distinctEntries]
    refine (keys entry (.head _)).bind fun key => ?_
    split
    · exact .throw _
    · refine (values entry (.head _)).bind fun value => ?_
      exact ih _ (fun entry member => keys entry (.tail _ member))
        fun entry member => values entry (.tail _ member)

/-- Reading the value of a node in which nothing is referred to follows no references. -/
theorem steady_nodeValue (document : Document) (contained : node.SelfContained) (depth : Nat) :
    Steady (document.nodeValue depth node) := by
  induction contained generalizing depth with
  | scalar =>
    rw [nodeValue_of_selfContained .scalar, Node.bare_scalar, map_eq_pure_bind]
    exact (Steady.lift _).bind fun _ => .pure _
  | @sequence tag items each ih =>
    rw [nodeValue_of_selfContained (.sequence each), Node.bare_sequence, map_eq_pure_bind]
    refine Steady.bind ?_ fun _ => .pure _
    cases depth with
    | zero => exact .throw _
    | succ depth =>
      exact (Steady.mapM fun item member => ih item member depth).bind fun _ => .pure _
  | @mapping tag entries keys values ih_keys ih_values =>
    rw [nodeValue_of_selfContained (.mapping keys values), Node.bare_mapping, map_eq_pure_bind]
    refine Steady.bind ?_ fun _ => .pure _
    cases depth with
    | zero => exact .throw _
    | succ depth =>
      refine (steady_distinctEntries [] (fun entry member => ih_keys entry member depth)
        fun entry member => ih_values entry member depth).bind fun _ => .pure _

/-! ## What a node has as its value -/

/-- A node has a value in a document, below some limit of depth. -/
def Means (document : Document) (node : Node) (value : Value) : Prop :=
  ∃ depth left last, (document.nodeValue depth node).run left = .ok (value, last)

/-- What is inside a node is its value but for a tag of the document's own. -/
theorem Means.content (contained : node.SelfContained) (means : document.Means node value) :
    ∃ depth left last content, value = ownTagged node content ∧
      (contentValue (document.inner? depth) node.bare).run left = .ok (content, last) := by
  obtain ⟨depth, left, last, read⟩ := means
  rw [nodeValue_of_selfContained contained, map_eq_pure_bind] at read
  obtain ⟨content, between, found, answer⟩ := run_bind_eq_ok_iff.mp read
  obtain ⟨rfl, -⟩ := run_pure_eq_ok_iff.mp answer
  exact ⟨depth, left, between, content, rfl, found⟩

/-- Without tags the value is the content. -/
theorem untagged_ownTagged (value : Value) : (ownTagged node value).untagged = value.untagged := by
  unfold ownTagged
  split
  · rw [Value.untagged]
  · rfl

/-- An integer is a value without parts. -/
theorem isAtom_integerValue {i : Int} (answer : integerValue i = .ok value) : value.IsAtom := by
  unfold integerValue at answer
  split at answer
  · exact Except.ok.inj answer ▸ trivial
  · cases answer

/-- A plain scalar means a value without parts. -/
theorem isAtom_plainValue {text : List Char} (answer : plainValue text = .ok value) :
    value.IsAtom := by
  unfold plainValue at answer
  split at answer
  case h_3 => exact isAtom_integerValue answer
  all_goals exact Except.ok.inj answer ▸ trivial

/-- A scalar means a value without parts but for a tag of the document's own. -/
theorem isAtom_scalarValue {tag : Option TagBytes} {style : Style} {text : List Char}
    (answer : scalarValue tag style text = .ok value) : value.IsAtom := by
  unfold scalarValue at answer
  repeat' split at answer
  all_goals first
    | exact isAtom_plainValue answer
    | exact isAtom_integerValue answer
    | exact Except.ok.inj answer ▸ trivial
    | cases answer

/-- What a scalar has as its value. -/
theorem Means.scalar {tag : Option TagBytes} {style : Style} {text : List Char}
    (means : document.Means (.scalar tag style text) value) :
    value = ownTagged (.scalar tag style text) value.untagged ∧
      scalarValue (Node.scalar tag style text).sharedTag style text = .ok value.untagged := by
  obtain ⟨depth, left, last, content, rfl, read⟩ := means.content .scalar
  rw [Node.bare_scalar] at read
  have answer : scalarValue (Node.scalar tag style text).sharedTag style text = .ok content := by
    revert read
    simp only [contentValue]
    cases scalarValue (Node.scalar tag style text).sharedTag style text with
    | error error => exact nofun
    | ok found => exact fun read => congrArg _ (Prod.mk.inj (Except.ok.inj read)).1
  rw [untagged_ownTagged, (isAtom_scalarValue answer).untagged]
  exact ⟨rfl, answer⟩

/-- What is found for a list is found item by item. -/
theorem forall₂_of_run_mapM {ε α : Type} {read : Node → Following ε α} {items : List Node}
    {values : List α} (found : (items.mapM read).run left = .ok (values, last)) :
    List.Forall₂ (fun item value => ∃ left last, (read item).run left = .ok (value, last)) items
      values := by
  induction items generalizing left values with
  | nil =>
    obtain ⟨rfl, -⟩ := run_pure_eq_ok_iff.mp found
    exact .nil
  | cons item rest ih =>
    rw [List.mapM_cons] at found
    obtain ⟨first, after, found_first, found⟩ := run_bind_eq_ok_iff.mp found
    obtain ⟨others, final, found_rest, answer⟩ := run_bind_eq_ok_iff.mp found
    obtain ⟨rfl, rfl⟩ := run_pure_eq_ok_iff.mp answer
    exact .cons ⟨_, _, found_first⟩ (ih found_rest)

/-- What a sequence has as its value. -/
theorem Means.sequence {tag : Option TagBytes} {items : List Node}
    (contained : (Node.sequence tag items).SelfContained)
    (means : document.Means (.sequence tag items) value) :
    ∃ values, value = ownTagged (.sequence tag items) (.sequence values) ∧
      value.untagged = .sequence values ∧ List.Forall₂ document.Means items values := by
  obtain ⟨depth, left, last, content, rfl, read⟩ := means.content contained
  rw [Node.bare_sequence] at read
  obtain _ | depth := depth
  · exact nomatch read
  obtain ⟨values, between, found, answer⟩ := run_bind_eq_ok_iff.mp read
  obtain ⟨rfl, -⟩ := run_pure_eq_ok_iff.mp answer
  refine ⟨values, rfl, untagged_ownTagged _, (forall₂_of_run_mapM found).imp ?_⟩
  exact fun _ _ found => ⟨depth, found⟩

/-- What the entries of a mapping have as their values. -/
theorem means_distinctEntries {entries : List (Node × Node)} {seen found : List (Value × Value)}
    (read : (distinctEntries (document.nodeValue depth) seen entries).run left =
      .ok (found, last)) :
    ∃ values, found = seen.reverse ++ values ∧
      List.Forall₂ (fun entry value => document.Means entry.1 value.1 ∧
        document.Means entry.2 value.2) entries values := by
  induction entries generalizing seen left with
  | nil =>
    obtain ⟨rfl, -⟩ := run_pure_eq_ok_iff.mp read
    exact ⟨[], (List.append_nil _).symm, .nil⟩
  | cons entry rest ih =>
    rw [distinctEntries] at read
    obtain ⟨key, after, read_key, read⟩ := run_bind_eq_ok_iff.mp read
    split at read
    · exact nomatch read
    obtain ⟨value, final, read_value, read⟩ := run_bind_eq_ok_iff.mp read
    obtain ⟨values, rfl, each⟩ := ih read
    refine ⟨(key, value) :: values, ?_, .cons ⟨⟨_, _, _, read_key⟩, ⟨_, _, _, read_value⟩⟩ each⟩
    rw [List.reverse_cons, List.append_assoc, List.singleton_append]

/-- What a mapping has as its value. -/
theorem Means.mapping {tag : Option TagBytes} {entries : List (Node × Node)}
    (contained : (Node.mapping tag entries).SelfContained)
    (means : document.Means (.mapping tag entries) value) :
    ∃ values, value = ownTagged (.mapping tag entries) (.mapping values) ∧
      value.untagged = .mapping values ∧
      List.Forall₂ (fun entry value => document.Means entry.1 value.1 ∧
        document.Means entry.2 value.2) entries values := by
  obtain ⟨depth, left, last, content, rfl, read⟩ := means.content contained
  rw [Node.bare_mapping] at read
  obtain _ | depth := depth
  · exact nomatch read
  obtain ⟨found, between, found_entries, answer⟩ := run_bind_eq_ok_iff.mp read
  obtain ⟨rfl, -⟩ := run_pure_eq_ok_iff.mp answer
  obtain ⟨values, same, each⟩ := means_distinctEntries found_entries
  rw [List.reverse_nil, List.nil_append] at same
  exact ⟨values, same ▸ rfl, same ▸ untagged_ownTagged _, each⟩

end Document

end Covenant.Yaml
