import Covenant.Proofs.Yaml.Clarity

/-!
# Two ways to declare a protocol

A document declares one protocol under a key of its own, or a list of protocols under another. What
the first reads from a node the second reads from the value of the node, one collection deeper. A
protocol that both declare is the same (`declares_same`), and a clear node that is not nested too
deeply is declared in both ways or in neither (`declares_both`).
-/
namespace Covenant.Yaml

namespace Document

variable {document : Document} {node : Node} {value : Value} {text : String} {depth left last : Nat}

/-- The document that declares one protocol. -/
def declaring (node : Node) : Document :=
  ⟨.mapping none [(.scalar none .plain "protocol".toList, node)], []⟩

/-- The document that declares a list of one protocol. -/
def listing (node : Node) : Document :=
  ⟨.mapping none [(.scalar none .plain "protocols".toList, .sequence none [node])], []⟩

/-- What a reader finds is what it finds from the limit on. -/
theorem run_eq_ok_iff {ε α : Type} {reader : Following ε α} {found : α} :
    document.run reader = .ok found ↔
      ∃ last, reader.run document.referenceLimit = .ok (found, last) := by
  unfold run
  cases reader.run document.referenceLimit with
  | error _ => exact ⟨nofun, nofun⟩
  | ok pair =>
    constructor
    · intro answer
      exact ⟨pair.2, congrArg _ (Prod.ext (Except.ok.inj answer) rfl)⟩
    · rintro ⟨last, answer⟩
      exact congrArg _ (congrArg Prod.fst (Except.ok.inj answer))

/-- The value of a mapping of one entry under a word. -/
theorem nodeValue_entry (document : Document) (depth : Nat) {name : List Char}
    (word : plainValue name = .ok (.string (String.ofList name))) (contained : node.SelfContained) :
    document.nodeValue (depth + 1) (.mapping none [(.scalar none .plain name, node)]) =
      (fun value => .mapping [(.string (String.ofList name), value)]) <$>
        document.nodeValue depth node := by
  have key : document.nodeValue depth (.scalar none .plain name) =
      pure (.string (String.ofList name)) := by
    rw [nodeValue_of_selfContained .scalar]
    change (fun value => value) <$> (liftM (plainValue name) : Following Error Value) = _
    rw [word]
    rfl
  have contained' : (Node.mapping none [(.scalar none .plain name, node)]).SelfContained :=
    .mapping (by simp [Node.SelfContained.scalar]) (by simpa using contained)
  rw [nodeValue_of_selfContained contained']
  change id <$> (do return Value.mapping (← distinctEntries (document.nodeValue depth) [] _)) = _
  rw [id_map, distinctEntries, key, map_eq_pure_bind]
  simp only [pure_bind, List.any_nil, Bool.false_eq_true, if_false, distinctEntries, bind_assoc,
    List.reverse_cons, List.reverse_nil, List.nil_append]

/-- The value of a sequence of one item. -/
theorem nodeValue_item (contained : node.SelfContained) :
    document.nodeValue (depth + 1) (.sequence none [node]) =
      (fun value => .sequence [value]) <$> document.nodeValue depth node := by
  have contained' : (Node.sequence none [node]).SelfContained :=
    .sequence (List.forall_mem_singleton.mpr contained)
  rw [nodeValue_of_selfContained contained']
  change id <$> (do return Value.sequence (← [node].mapM (document.nodeValue depth))) = _
  rw [id_map, map_eq_pure_bind, List.mapM_cons]
  simp only [bind_assoc, List.mapM_nil, pure_bind]

/-- What is read under an error of its own is read. -/
theorem mapError_eq_ok_iff {ε δ α : Type} {wrap : ε → δ} {answer : Except ε α} {found : α} :
    answer.mapError wrap = .ok found ↔ answer = .ok found := by
  cases answer with
  | error _ => exact ⟨nofun, nofun⟩
  | ok _ => exact Iff.of_eq (by rw [Except.mapError, Except.ok.injEq, Except.ok.injEq])

/-- The value of a document that declares one protocol. -/
theorem value_declaring (contained : node.SelfContained) :
    (declaring node).value = .ok value ↔
      ∃ inner last, ((declaring node).nodeValue 127 node).run (declaring node).referenceLimit =
        .ok (inner, last) ∧ value = .mapping [(.string "protocol", inner)] := by
  have word : plainValue "protocol".toList = .ok (.string (String.ofList "protocol".toList)) := rfl
  unfold Document.value
  rw [run_eq_ok_iff]
  have entry := nodeValue_entry (declaring node) 127 word contained
  rw [String.ofList_toList] at entry
  change (∃ last, StateT.run ((declaring node).nodeValue (127 + 1) (.mapping none _)) _ = _) ↔ _
  rw [entry, map_eq_pure_bind]
  simp only [run_bind_eq_ok_iff, run_pure_eq_ok_iff]
  constructor
  · rintro ⟨last, inner, between, found, rfl, rfl⟩
    exact ⟨inner, last, found, rfl⟩
  · rintro ⟨inner, last, found, rfl⟩
    exact ⟨last, inner, last, found, rfl, rfl⟩

/-- The value of a document that declares a list of one protocol. -/
theorem value_listing (contained : node.SelfContained) :
    (listing node).value = .ok value ↔
      ∃ inner last, ((listing node).nodeValue 126 node).run (listing node).referenceLimit =
        .ok (inner, last) ∧ value = .mapping [(.string "protocols", .sequence [inner])] := by
  have word : plainValue "protocols".toList =
      .ok (.string (String.ofList "protocols".toList)) := rfl
  have contained' : (Node.sequence none [node]).SelfContained :=
    .sequence (List.forall_mem_singleton.mpr contained)
  unfold Document.value
  rw [run_eq_ok_iff]
  have entry := nodeValue_entry (listing node) 127 word contained'
  rw [String.ofList_toList, nodeValue_item contained] at entry
  change (∃ last, StateT.run ((listing node).nodeValue (127 + 1) (.mapping none _)) _ = _) ↔ _
  rw [entry, map_eq_pure_bind, map_eq_pure_bind]
  simp only [run_bind_eq_ok_iff, run_pure_eq_ok_iff]
  constructor
  · rintro ⟨last, _, between, ⟨inner, _, found, rfl, rfl⟩, rfl, rfl⟩
    exact ⟨inner, last, found, rfl⟩
  · rintro ⟨inner, last, found, rfl⟩
    exact ⟨last, _, last, ⟨inner, last, found, rfl, rfl⟩, rfl, rfl⟩

/-- The protocol of a text that declares one is read from its node. -/
theorem ofYaml_declaring (read : Document.ofText text = .ok (declaring node))
    {protocol : Protocol} : Protocol.ofYaml text = .ok protocol ↔
      ∃ last, ((declaring node).reading.protocol node).run (declaring node).referenceLimit =
        .ok (protocol, last) := by
  have reads : Reading.protocolDocument (declaring node).reading (declaring node).root =
      (declaring node).reading.protocol node := rfl
  rw [Protocol.ofYaml, Document.read, Reading.bind_eq_ok_iff, ← reads, ← run_eq_ok_iff]
  constructor
  · rintro ⟨_, found, answer⟩
    rw [read] at found
    exact Except.ok.inj found ▸ mapError_eq_ok_iff.mp answer
  · exact fun answer => ⟨_, read, mapError_eq_ok_iff.mpr answer⟩

/-- What a document declares under a key of its own: a protocol, if the value of the document can be
read and the protocol can be read from the node. -/
theorem declares_single (read : Document.ofText text = .ok (declaring node))
    (contained : node.SelfContained) {declarations : Declarations} :
    Declarations.ofYaml text = .ok declarations ↔
      (∃ value last, ((declaring node).nodeValue 127 node).run (declaring node).referenceLimit =
        .ok (value, last)) ∧
      ∃ protocol last, ((declaring node).reading.protocol node).run
        (declaring node).referenceLimit = .ok (protocol, last) ∧
          declarations = .single protocol := by
  rw [Declarations.ofYaml, read]
  simp only [Reading.bind_eq_ok_iff, Except.ok.injEq, exists_eq_left', value_declaring contained]
  constructor
  · rintro ⟨_, ⟨inner, last, found, rfl⟩, answer⟩
    obtain ⟨protocol, declared, answer⟩ := Reading.bind_eq_ok_iff.mp answer
    obtain ⟨last', reads⟩ := (ofYaml_declaring read).mp declared
    exact ⟨⟨inner, last, found⟩, protocol, last', reads, (Except.ok.inj answer).symm⟩
  · rintro ⟨⟨inner, last, found⟩, protocol, last', reads, rfl⟩
    refine ⟨_, ⟨inner, last, found, rfl⟩, ?_⟩
    exact Reading.bind_eq_ok_iff.mpr ⟨protocol, (ofYaml_declaring read).mpr ⟨last', reads⟩, rfl⟩

/-- What a document declares as a list: a protocol, if it can be read from the value of the node. -/
theorem declares_list (read : Document.ofText text = .ok (listing node))
    (contained : node.SelfContained) {declarations : Declarations} :
    Declarations.ofYaml text = .ok declarations ↔
      ∃ value last protocol, ((listing node).nodeValue 126 node).run
        (listing node).referenceLimit = .ok (value, last) ∧
          Value.reading.protocol value = .ok protocol ∧ declarations = .list [protocol] := by
  rw [Declarations.ofYaml, read]
  simp only [Reading.bind_eq_ok_iff, Except.ok.injEq, exists_eq_left', value_listing contained]
  have reads : ∀ inner, Value.reading.protocolList
      (.mapping [(.string "protocols", .sequence [inner])]) =
        [inner].mapM Value.reading.protocol := fun _ => rfl
  constructor
  · rintro ⟨_, ⟨inner, last, found, rfl⟩, answer⟩
    obtain ⟨protocols, declared, answer⟩ := Reading.bind_eq_ok_iff.mp answer
    rw [mapError_eq_ok_iff, reads, Reading.mapM_eq_ok_iff, List.forall₂_cons_left_iff] at declared
    obtain ⟨protocol, others, each, rest, rfl⟩ := declared
    cases rest
    exact ⟨inner, last, protocol, found, each, (Except.ok.inj answer).symm⟩
  · rintro ⟨inner, last, protocol, found, each, rfl⟩
    refine ⟨_, ⟨inner, last, found, rfl⟩, Reading.bind_eq_ok_iff.mpr ⟨[protocol], ?_, rfl⟩⟩
    rw [mapError_eq_ok_iff, reads, Reading.mapM_eq_ok_iff]
    exact .cons each .nil

variable {single list : String}

/-- What is declared in both ways is the same protocol. -/
theorem declares_same (read_single : Document.ofText single = .ok (declaring node))
    (read_list : Document.ofText list = .ok (listing node)) (contained : node.SelfContained)
    {declarations declarations' : Declarations}
    (declared : Declarations.ofYaml single = .ok declarations)
    (declared' : Declarations.ofYaml list = .ok declarations') :
    ∃ protocol, declarations = .single protocol ∧ declarations' = .list [protocol] := by
  obtain ⟨-, protocol, last, reads, rfl⟩ := (declares_single read_single contained).mp declared
  obtain ⟨value, last', protocol', found, answers, rfl⟩ :=
    (declares_list read_list contained).mp declared'
  have paired : Paired (listing node) False Node.isClearProtocol node value :=
    ⟨contained, ⟨_, _, _, found⟩, nofun⟩
  have same := (protocol_agree (declaring node) paired).related_of_ok reads answers
  exact ⟨protocol, rfl, same ▸ rfl⟩

/-- A clear node that is not nested too deeply is declared in both ways or in neither. -/
theorem declares_both (read_single : Document.ofText single = .ok (declaring node))
    (read_list : Document.ofText list = .ok (listing node)) (contained : node.SelfContained)
    (within : node.depth ≤ 126) (isClear : node.isClearProtocol = true) :
    (∃ declarations, Declarations.ofYaml single = .ok declarations) ↔
      ∃ declarations, Declarations.ofYaml list = .ok declarations := by
  have alike : (declaring node).nodeValue 127 node = (listing node).nodeValue 126 node := by
    have same : (declaring node).nodeValue 126 = (listing node).nodeValue 126 :=
      nodeValue_eq_of_anchors rfl
    have step := nodeValue_succ (declaring node) contained within
    exact step.trans (congrFun same node)
  have steady := steady_nodeValue (listing node) contained 126
  have agree : ∀ {value last}, ((listing node).nodeValue 126 node).run
      (listing node).referenceLimit = .ok (value, last) →
        Agree True Eq ((declaring node).reading.protocol node) (Value.reading.protocol value) :=
    fun found => protocol_agree (declaring node) ⟨contained, ⟨_, _, _, found⟩, fun _ => isClear⟩
  simp only [declares_single read_single contained, declares_list read_list contained, alike]
  constructor
  · rintro ⟨_, ⟨value, last, found⟩, protocol, last', reads, rfl⟩
    have found' := steady.run_eq found (listing node).referenceLimit
    obtain ⟨protocol', answers⟩ := ((agree found').ok_iff trivial _).mp ⟨_, _, reads⟩
    exact ⟨_, value, _, protocol', found', answers, rfl⟩
  · rintro ⟨_, value, last, protocol, found, answers, rfl⟩
    have found' := steady.run_eq found (declaring node).referenceLimit
    obtain ⟨protocol', last', reads⟩ := ((agree found).ok_iff trivial _).mpr ⟨_, answers⟩
    exact ⟨_, ⟨value, _, found'⟩, protocol', last', reads, rfl⟩

end Document

end Covenant.Yaml
