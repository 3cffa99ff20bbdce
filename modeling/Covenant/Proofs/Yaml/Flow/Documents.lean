import Covenant.Proofs.Yaml.Flow.Grammar
import Covenant.Proofs.Yaml.Forms

/-!
# Documents of nodes in flow notation

A text that is a node in flow notation is read in a document just as between brackets, be it the
value of a key or an item of a list.
-/
namespace Covenant.Yaml

namespace Token

/-- The tokens that a node in flow notation starts with. -/
def startsNode : Token → Bool
  | tag _ _ | scalar _ _ | flowSequenceStart | flowMappingStart => true
  | _ => false

end Token

namespace Parser

variable {fuel : Nat} {token : Token} {rest body : List Token} {node value : Node} {parse : Parse}

/-- A node that is read in a flow collection starts with one of the tokens for it. -/
theorem startsNode_of_node (isFlow : token.isFlow = true)
    (known : (Parser.node fuel inFlow).run { tokens := token :: rest } = .ok (node, parse)) :
    token.startsNode = true := by
  match fuel with
  | 0 | 1 => cases token <;> first | rfl | contradiction
  | fuel + 2 => cases token <;> first | rfl | contradiction

/-- A node is read as the value of a key. -/
theorem nodeUnless_of_startsNode (starts : token.startsNode = true) :
    (nodeUnless (fuel + 1) [.key, .value, .blockEnd] ⟨true, true⟩).run { tokens := token :: rest } =
      (Parser.node fuel ⟨true, true⟩).run { tokens := token :: rest } := by
  cases token <;> first | rfl | cases starts

/-- What is read as the item of a list is read as its one item. -/
theorem nodeUnless_of_item (starts : token.startsNode = true)
    (known : (Parser.node fuel inFlow).run { tokens := token :: rest } =
      .ok (node, { tokens := [.flowSequenceEnd, .blockEnd] })) (enough : 0 < fuel) :
    (nodeUnless (fuel + 4) [.key, .value, .blockEnd] ⟨true, true⟩).run
      { tokens := .flowSequenceStart :: token :: rest } =
        .ok (.sequence none [node], { tokens := [.blockEnd] }) := by
  obtain ⟨fuel, rfl⟩ := Nat.exists_eq_add_one_of_ne_zero (Nat.ne_zero_of_lt enough)
  have items : (flowItems (fuel + 1 + 1) true).run { tokens := token :: rest } =
      ((Parser.node (fuel + 1) inFlow).run { tokens := token :: rest } >>= fun answer =>
        (flowItems (fuel + 1) false).run answer.2 >>= fun others =>
          pure (answer.1 :: others.1, others.2)) := by
    cases token <;> first | rfl | cases starts
  have sequence : (nodeUnless (fuel + 1 + 4) [.key, .value, .blockEnd] ⟨true, true⟩).run
      { tokens := .flowSequenceStart :: token :: rest } =
        ((flowItems (fuel + 1 + 1) true).run { tokens := token :: rest } >>= fun items =>
          pure (.sequence none items.1, items.2)) := rfl
  rw [sequence, items, known]
  rfl

/-- A mapping of one entry is the node of a document. -/
theorem document_of_entry (style : Style) (name : List Char)
    (known : (nodeUnless (fuel + 2) [.key, .value, .blockEnd] ⟨true, true⟩).run
      { tokens := body } = .ok (value, { tokens := [.blockEnd] })) :
    (document (fuel + 6)).run { tokens := [.blockMappingStart, .key, .scalar style name, .value] ++
      body } = .ok (⟨.mapping none [(.scalar none style name, value)], []⟩, { tokens := [] }) := by
  have root : (rootNode (fuel + 6)).run
      { tokens := [.blockMappingStart, .key, .scalar style name, .value] ++ body } =
        .ok (.mapping none [(.scalar none style name, value)], { tokens := [] }) := by
    change ((nodeUnless (fuel + 2) [.key, .value, .blockEnd] ⟨true, true⟩).run
      { tokens := body } >>= fun answer => (blockEntries (fuel + 3)).run answer.2 >>= fun others =>
        pure ((Node.scalar none style name, answer.1) :: others.1, others.2)) >>=
          (fun entries => pure (Node.mapping none entries.1, entries.2)) = _
    rw [known]
    rfl
  rw [document, StateT.run_bind, root]
  rfl

end Parser

variable {text : String} {node : Node} {final : Lexer} {fuel : Nat} {place : Parser.Place}
  {others : List Token}

namespace Node

/-- A text writes a node in flow notation, and this is how it is read. -/
structure Written (text : String) (node : Node) (final : Lexer) : Prop where
  /-- The characters may be in a text. -/
  allowed : text.toList.all isAllowed = true
  /-- The text starts with a token. -/
  opens : Lexer.Opens text.toList
  /-- The tokens are read up to the end of the node. -/
  known : (Lexer.betweenBrackets text.toList).toNodeEnd (text.toList.length + 1) = .ok final
  /-- All collections of the node end. -/
  outermost : final.flowDepth = 1
  /-- The text ends with the node. -/
  rest : final.cursor.rest = [']']
  /-- The node is read from the tokens. -/
  reads : ∃ parse, (Parser.node (3 * final.tokens.length + 8) Parser.inFlow).run
    { tokens := final.tokens ++ [.flowSequenceEnd] } = .ok (node, parse) ∧
      parse.tokens = [.flowSequenceEnd]

/-- What a text writes in flow notation is read in this way. -/
theorem written_of_ofFlow (read : ofFlow text = .ok node) : ∃ final, Written text node final := by
  unfold ofFlow at read
  dsimp only at read
  split at read
  · cases read
  rename_i characters
  obtain ⟨final, known, read⟩ := Reading.bind_eq_ok_iff.mp read
  split at read
  · cases read
  rename_i ends
  obtain ⟨⟨found, parse⟩, reads, read⟩ := Reading.bind_eq_ok_iff.mp read
  dsimp only at read
  split at read
  · cases read
  rename_i single
  cases read
  simp only [Bool.or_eq_true, not_or, Bool.not_eq_true', decide_eq_true_eq, ne_eq,
    Decidable.not_not] at characters ends single
  obtain ⟨⟨allowed, notGap⟩, uncommented⟩ := characters
  refine ⟨final, by simpa using allowed, ?_, known, ends.1, ends.2, parse, reads, single⟩
  cases chars : text.toList with
  | nil =>
    rw [chars] at notGap
    exact absurd rfl notGap
  | cons c more =>
    rw [chars] at notGap uncommented
    exact ⟨c, more, rfl, by simpa [startsGap] using notGap,
      fun mark => uncommented (congrArg some mark)⟩

namespace Written

/-- The tokens of the node are of flow notation. -/
theorem isFlow (written : Written text node final) :
    ∀ token ∈ final.tokens, token.isFlow = true :=
  Lexer.isFlow_of_toNodeEnd written.known written.outermost written.rest

/-- The node is read in another place, too, and before other tokens. -/
theorem again (written : Written text node final) (enough : 3 * final.tokens.length + 8 ≤ fuel) :
    node.SelfContained ∧
      (node.isCollection = true → final.tokens.getLast?.any Token.isClosing = true) ∧
      ∀ place others, (node.isCollection = true ∨ others.head? = some .flowSequenceEnd) →
        (Parser.node fuel place).run { tokens := final.tokens ++ others } =
          .ok (node, { tokens := others }) := by
  obtain ⟨parse, reads, single⟩ := written.reads
  have isFlow : ∀ token ∈ final.tokens ++ [.flowSequenceEnd], token.isFlow = true :=
    List.forall_mem_append.mpr ⟨written.isFlow, by simp [Token.isFlow]⟩
  have at_place := fun place =>
    (Parser.flowReads enough).node place _ _ rfl isFlow node parse reads
  obtain ⟨contained, used, left, split, rfl, closes, -⟩ := at_place Parser.inFlow
  obtain rfl : left = [.flowSequenceEnd] := single
  obtain rfl := List.append_cancel_right split
  refine ⟨contained, closes, fun place others fits => ?_⟩
  obtain ⟨-, used, left, split, rest, -, reads'⟩ := at_place place
  obtain rfl : [.flowSequenceEnd] = left := congrArg Parse.tokens rest
  obtain rfl := List.append_cancel_right split
  exact reads' others fits

/-- There is a first token, and it starts a node. -/
theorem startsNode (written : Written text node final) :
    ∃ token rest, final.tokens = token :: rest ∧ token.startsNode = true := by
  obtain ⟨parse, reads, -⟩ := written.reads
  cases tokens : final.tokens with
  | nil =>
    rw [tokens] at reads
    exact absurd (Parser.startsNode_of_node rfl reads) nofun
  | cons token rest =>
    rw [tokens] at reads
    exact ⟨token, rest, rfl, Parser.startsNode_of_node
      (written.isFlow token (tokens ▸ List.mem_cons_self)) reads⟩

/-- A collection ends with a closing mark. -/
theorem closed (written : Written text node final) (collection : node.isCollection = true) :
    final.newest Token.isClosing = true := by
  obtain ⟨-, closes, -⟩ := written.again (Nat.le_refl _)
  have last := closes collection
  unfold Lexer.newest
  unfold Lexer.tokens at last
  cases slots : final.slots with
  | nil =>
    rw [slots] at last
    cases last
  | cons slot more =>
    rw [slots] at last
    simpa using last

end Written

/-- Nothing is referred to in a node in flow notation. -/
theorem selfContained_of_ofFlow (read : ofFlow text = .ok node) : node.SelfContained := by
  obtain ⟨final, written⟩ := written_of_ofFlow read
  exact (written.again (Nat.le_refl _)).1

end Node

namespace Document

/-- A text of one key with a value is read as a document from its tokens. -/
theorem ofText_of_tokens {style : Style} {name : List Char} {body : List Token} {value : Node}
    (lexes : Token.ofText text =
      .ok ([.blockMappingStart, .key, .scalar style name, .value] ++ body))
    (known : (Parser.nodeUnless (3 * body.length + 16) [.key, .value, .blockEnd] ⟨true, true⟩).run
      { tokens := body } = .ok (value, { tokens := [.blockEnd] })) :
    ofText text = .ok ⟨.mapping none [(.scalar none style name, value)], []⟩ := by
  have parses := Parser.document_of_entry style name known
  have total :
      3 * ([Token.blockMappingStart, .key, .scalar style name, .value] ++ body).length + 8 =
        3 * body.length + 14 + 6 := by
    rw [List.length_append]
    change 3 * (4 + _) + 8 = _
    omega
  rw [ofText, lexes]
  rw [← total] at parses
  exact Reading.bind_eq_ok_iff.mpr ⟨_, rfl, Reading.bind_eq_ok_iff.mpr ⟨_, parses, rfl⟩⟩

/-- A node in flow notation is read as the one item of a list of protocols. -/
theorem ofText_listing (read : Node.ofFlow text = .ok node) :
    ofText ("protocols: [" ++ text ++ "]") = .ok (listing node) := by
  obtain ⟨final, written⟩ := Node.written_of_ofFlow read
  obtain ⟨token, rest, tokens, starts⟩ := written.startsNode
  obtain ⟨-, -, again⟩ := written.again (Nat.add_le_add_left (show 8 ≤ 21 by decide) _)
  have lexes := Lexer.ofText_listing written.allowed written.known written.outermost written.rest
  rw [List.append_assoc] at lexes
  refine ofText_of_tokens lexes ?_
  have item := again Parser.inFlow [Token.flowSequenceEnd, .blockEnd] (.inr rfl)
  have room :
      3 * (.flowSequenceStart :: (final.tokens ++ [Token.flowSequenceEnd, .blockEnd])).length + 16 =
        3 * final.tokens.length + 21 + 4 := by
    simp only [List.length_append, List.length_cons, List.length_nil]
    omega
  change (Parser.nodeUnless (3 * (.flowSequenceStart :: (final.tokens ++ [Token.flowSequenceEnd,
    .blockEnd])).length + 16) _ _).run _ = _
  rw [room]
  rw [tokens] at item ⊢
  exact Parser.nodeUnless_of_item starts item (Nat.succ_pos _)

/-- A collection in flow notation is read as the value of a key. -/
theorem ofText_declaring (read : Node.ofFlow text = .ok node)
    (collection : node.isCollection = true) :
    ofText ("protocol: " ++ text) = .ok (declaring node) := by
  obtain ⟨final, written⟩ := Node.written_of_ofFlow read
  obtain ⟨token, rest, tokens, starts⟩ := written.startsNode
  obtain ⟨-, -, again⟩ := written.again (Nat.add_le_add_left (show 8 ≤ 18 by decide) _)
  have lexes := Lexer.ofText_declaring written.allowed written.opens written.known
    written.outermost written.rest (written.closed collection)
  rw [List.append_assoc] at lexes
  refine ofText_of_tokens lexes ?_
  have value := again ⟨true, true⟩ [Token.blockEnd] (.inl collection)
  have room : 3 * (final.tokens ++ [Token.blockEnd]).length + 16 =
      3 * final.tokens.length + 18 + 1 := by
    simp only [List.length_append, List.length_cons, List.length_nil]
    omega
  rw [room]
  rw [tokens] at value ⊢
  exact (Parser.nodeUnless_of_startsNode starts).trans value

end Document

end Covenant.Yaml
