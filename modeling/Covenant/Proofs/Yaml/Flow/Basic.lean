import Covenant.Yaml.Node.Grammar

/-!
# Nodes in flow notation

Flow notation writes a node by marks alone: a scalar, or a collection from its opening mark to its
closing one. `Node.ofFlow` reads a text that is one such node, as an item between brackets.
-/
namespace Covenant.Yaml

namespace Token

/-- The tokens of flow notation, without anchors and references. -/
def isFlow : Token → Bool
  | flowSequenceStart | flowSequenceEnd | flowMappingStart | flowMappingEnd => true
  | flowEntry | key | value | tag _ _ | scalar _ _ => true
  | _ => false

/-- A tag belongs to the node after it. -/
def isTag : Token → Bool
  | tag _ _ => true
  | _ => false

/-- The closing marks. -/
def isClosing : Token → Bool
  | flowSequenceEnd | flowMappingEnd => true
  | _ => false

/-- A node ends with a closing mark or a scalar. -/
def endsNode : Token → Bool
  | flowSequenceEnd | flowMappingEnd | scalar _ _ => true
  | _ => false

end Token

namespace Lexer

/-- The tokens that were read, in order. -/
def tokens (lexer : Lexer) : List Token :=
  lexer.slots.reverse.flatMap fun slot => slot.before ++ [slot.token]

/-- Whether the last token that was read satisfies a test. -/
def newest (lexer : Lexer) (test : Token → Bool) : Bool :=
  lexer.slots.head?.any fun slot => test slot.token

/-- Whether blanks come next and then something else in the line than a comment. -/
def goesOn (lexer : Lexer) : Bool :=
  let cursor := lexer.cursor.skipWhile isBlank
  lexer.cursor.peek.any isBlank && !cursor.atBreak && !cursor.isAt '#'

/-- Go to the next token, and close what ends before it. -/
def ready (lexer : Lexer) : Except Error Lexer := do
  let lexer ← (skipSeparators (lexer.cursor.left + 1) lexer).dropStale
  return lexer.closeBlocks (some lexer.cursor.column)

/-- Read the next token. -/
def next (lexer : Lexer) : Except Error Lexer := do
  let lexer ← lexer.ready
  match lexer.cursor.rest with
  | [] => .error .expectedValue
  | c :: rest => lexer.token c rest

/-- Read tokens up to the end of a node inside one flow collection. What the tag of the node belongs
to comes after blanks in the same line. -/
def toNodeEnd : Nat → Lexer → Except Error Lexer
  | 0, _ => .error .expectedEnd
  | fuel + 1, lexer => do
    let lexer ← lexer.next
    if !lexer.newest Token.isFlow then throw .expectedValue
    if 1 < lexer.flowDepth then toNodeEnd fuel lexer
    else if lexer.newest Token.endsNode then return lexer
    else if lexer.newest Token.isTag && lexer.goesOn then toNodeEnd fuel lexer
    else throw .expectedValue

/-- The place between brackets, in the first line of a block mapping and not at its start. -/
def betweenBrackets (cs : List Char) : Lexer where
  cursor := { rest := cs ++ [']'], column := 1 }
  flowDepth := 1
  indents := [0]
  keys := [none, none]

end Lexer

/-- The node that a text writes in flow notation. -/
def Node.ofFlow (text : String) : Except Error Node := do
  let cs := text.toList
  if !cs.all isAllowed || startsGap cs || cs.head? = some '#' then throw .expectedValue
  let lexer ← (Lexer.betweenBrackets cs).toNodeEnd (cs.length + 1)
  if lexer.flowDepth ≠ 1 || lexer.cursor.rest ≠ [']'] then throw .expectedEnd
  let (node, parse) ← (Parser.node (3 * lexer.tokens.length + 8) Parser.inFlow).run
    { tokens := lexer.tokens ++ [.flowSequenceEnd] }
  if parse.tokens ≠ [.flowSequenceEnd] then throw .expectedEnd
  return node

end Covenant.Yaml
