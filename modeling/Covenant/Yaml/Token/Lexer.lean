import Covenant.Yaml.Token

/-!
# From text to tokens

A step of the lexer skips what separates tokens, closes the collections whose indentation ends
here, and reads one token. A value that may turn out to be a key is remembered until its line
ends or it gets too long; when a colon follows, the mark of a key is put before its first token,
and before that the start of a mapping if it is indented further than what it stands in. Each
place in a text has at most one such value for every flow collection around it.
-/
namespace Covenant.Yaml

/-- A value that may turn out to be a key. -/
structure PendingKey where
  /-- Whether nothing but a key can stand there. -/
  required : Bool
  /-- How many tokens come before it. -/
  position : Nat
  /-- Where it starts. -/
  start : Cursor

/-- A token and what a later colon puts before it. -/
structure Slot where
  /-- What comes before the token. -/
  before : List Token := []
  /-- The token. -/
  token : Token

/-- What a lexer knows between tokens. -/
structure Lexer where
  /-- The place in the text. -/
  cursor : Cursor
  /-- How many flow collections are open. -/
  flowDepth : Nat := 0
  /-- The indentations of the open block collections, innermost first. -/
  indents : List Nat := []
  /-- Whether a key may start at the next token. -/
  keyAllowed : Bool := true
  /-- The value that may turn out to be a key, for each flow collection and the block around
  them, innermost first. -/
  keys : List (Option PendingKey) := [none]
  /-- The tokens read, last first. -/
  slots : List Slot := []
  /-- How many tokens were read. -/
  count : Nat := slots.length

namespace Lexer

/-- How many bytes may lie between the start of a key and its colon. -/
def keyLimit : Nat := 1024

/-- Whether the place is inside a flow collection. -/
def inFlow (lexer : Lexer) : Bool := 0 < lexer.flowDepth

/-- Append a token. -/
def emit (lexer : Lexer) (token : Token) : Lexer :=
  { lexer with slots := { token } :: lexer.slots, count := lexer.count + 1 }

/-- Put a token before one that was read, and before all that was put there. -/
def emitBefore (lexer : Lexer) (position : Nat) (token : Token) : Lexer :=
  { lexer with slots := lexer.slots.modify (lexer.count - 1 - position) fun slot =>
      { slot with before := token :: slot.before } }

/-- Move over some characters of the line. -/
def skip (lexer : Lexer) (count : Nat) : Lexer :=
  { lexer with cursor := lexer.cursor.advance count }

/-- Skip blanks, comments and line breaks. A tab separates tokens only where no key may start,
and a mark of byte order only as the first character of a line, where it fills a column. -/
def skipSeparators : Nat → Lexer → Lexer
  | 0, lexer => lexer
  | fuel + 1, lexer =>
    let cursor := lexer.cursor
    let cursor := if cursor.column == 0 && cursor.isAt '\ufeff' then cursor.advance 1 else cursor
    let tabs := lexer.inFlow || !lexer.keyAllowed
    let cursor := cursor.skipWhile fun c => c == ' ' || (tabs && c == '\t')
    let cursor := if cursor.isAt '#' then cursor.skipWhile (!isBreak ·) else cursor
    if cursor.atBreak then
      skipSeparators fuel { lexer with
        cursor := cursor.crossBreak.2
        keyAllowed := lexer.keyAllowed || !lexer.inFlow }
    else { lexer with cursor }

/-- Whether a value can no longer turn out to be a key at a place. -/
def PendingKey.isStale (key : PendingKey) (place : Cursor) : Bool :=
  key.start.line < place.line || key.start.offset + keyLimit < place.offset

/-- Forget the values that can no longer turn out to be keys. -/
def dropStale (lexer : Lexer) : Except Error Lexer := do
  let keys ← lexer.keys.mapM fun key => do
    match key with
    | none => return none
    | some pending =>
      if !PendingKey.isStale pending lexer.cursor then return key
      else if pending.required then throw Error.missingColon
      else return none
  return { lexer with keys }

/-- Forget the value that may turn out to be a key here. -/
def dropKey (lexer : Lexer) : Except Error Lexer :=
  match lexer.keys with
  | some pending :: outer =>
    if pending.required then .error .missingColon else .ok { lexer with keys := none :: outer }
  | _ => .ok lexer

/-- Remember the next token as a value that may turn out to be a key. -/
def saveKey (lexer : Lexer) : Except Error Lexer :=
  if lexer.keyAllowed then do
    let required := !lexer.inFlow && lexer.indents.head? == some lexer.cursor.column
    let lexer ← lexer.dropKey
    let pending : PendingKey := ⟨required, lexer.count, lexer.cursor⟩
    return { lexer with keys := some pending :: lexer.keys.drop 1 }
  else .ok lexer

/-- Whether a column is indented further than what is open. -/
def isDeeper (lexer : Lexer) (column : Nat) : Bool :=
  !lexer.inFlow && lexer.indents.head?.all (· < column)

/-- Start a block collection at a column if it is indented further than what is open. -/
def openBlock (lexer : Lexer) (column : Nat) (token : Token) : Lexer :=
  if lexer.isDeeper column then
    { lexer with indents := column :: lexer.indents }.emit token
  else lexer

/-- End the block collections that are indented further than a column, or all of them. -/
def closeBlocks (lexer : Lexer) (column : Option Nat) : Lexer :=
  if lexer.inFlow then lexer
  else
    let closed := lexer.indents.takeWhile fun indent => column.all (· < indent)
    closed.foldl (fun lexer _ => lexer.emit .blockEnd)
      { lexer with indents := lexer.indents.drop closed.length }

/-- Read a mark that no key can be before it. -/
def mark (lexer : Lexer) (length : Nat) (keyAllowed : Bool) (token : Token) :
    Except Error Lexer := do
  let lexer ← lexer.dropKey
  return ({ lexer with keyAllowed }.skip length).emit token

/-- The mark of the start or the end of a document. -/
def documentMark (lexer : Lexer) (token : Token) : Except Error Lexer :=
  (lexer.closeBlocks none).mark 3 false token

/-- A directive. -/
def directive (lexer : Lexer) : Except Error Lexer := do
  let lexer ← (lexer.closeBlocks none).dropKey
  let (token, cursor) ← Directive.read lexer.cursor
  return { lexer with cursor, keyAllowed := false }.emit token

/-- The opening mark of a flow collection, which may be a key as a whole. -/
def flowStart (lexer : Lexer) (token : Token) : Except Error Lexer := do
  let lexer ← lexer.saveKey
  return ({ lexer with
    flowDepth := lexer.flowDepth + 1
    keys := none :: lexer.keys
    keyAllowed := true }.skip 1).emit token

/-- The closing mark of a flow collection. -/
def flowEnd (lexer : Lexer) (token : Token) : Except Error Lexer := do
  let lexer ← lexer.dropKey
  let keys := if lexer.inFlow then lexer.keys.drop 1 else lexer.keys
  return ({ lexer with
    flowDepth := lexer.flowDepth - 1
    keys
    keyAllowed := false }.skip 1).emit token

/-- The dash of an item. -/
def blockEntry (lexer : Lexer) : Except Error Lexer :=
  if !lexer.inFlow && !lexer.keyAllowed then .error .misplacedEntry
  else (lexer.openBlock lexer.cursor.column .blockSequenceStart).mark 1 true .blockEntry

/-- The question mark of a key. -/
def explicitKey (lexer : Lexer) : Except Error Lexer :=
  if !lexer.inFlow && !lexer.keyAllowed then .error .misplacedKey
  else
    (lexer.openBlock lexer.cursor.column .blockMappingStart).mark 1 (!lexer.inFlow) .key

/-- The colon before a value. The value that may be a key becomes one. -/
def value (lexer : Lexer) : Except Error Lexer :=
  match lexer.keys with
  | some pending :: outer =>
    let lexer := lexer.emitBefore pending.position .key
    let lexer :=
      if lexer.isDeeper pending.start.column then
        { lexer with indents := pending.start.column :: lexer.indents }.emitBefore
          pending.position .blockMappingStart
      else lexer
    .ok (({ lexer with keys := none :: outer, keyAllowed := false }.skip 1).emit .value)
  | _ =>
    if !lexer.inFlow && !lexer.keyAllowed then .error .misplacedValue
    else
      let lexer := lexer.openBlock lexer.cursor.column .blockMappingStart
      .ok (({ lexer with keyAllowed := !lexer.inFlow }.skip 1).emit .value)

/-- An anchor or a reference. -/
def name (lexer : Lexer) (token : List Char → Token) : Except Error Lexer := do
  let lexer ← lexer.saveKey
  let (name, cursor) ← Anchor.read lexer.cursor
  return { lexer with cursor, keyAllowed := false }.emit (token name)

/-- A tag, which has to be set apart from what it belongs to. -/
def tag (lexer : Lexer) : Except Error Lexer := do
  let lexer ← lexer.saveKey
  let (token, cursor) ← Tag.read lexer.cursor
  if !startsGap cursor.rest && !(lexer.inFlow && cursor.isAt ',') then throw .badTag
  return { lexer with cursor, keyAllowed := false }.emit token

/-- A scalar in lines below its header, which is never a key. -/
def block (lexer : Lexer) (style : Style) : Except Error Lexer := do
  let lexer ← lexer.dropKey
  let found ← Block.read style lexer.indents.head? lexer.cursor
  return { lexer with cursor := found.after, keyAllowed := true }.emit (.scalar style found.text)

/-- A quoted scalar. -/
def quoted (lexer : Lexer) (style : Style) : Except Error Lexer := do
  let lexer ← lexer.saveKey
  let found ← Quoted.read style lexer.cursor
  return { lexer with cursor := found.after, keyAllowed := false }.emit (.scalar style found.text)

/-- A plain scalar. After one that a line break ends a key may start. -/
def plain (lexer : Lexer) : Except Error Lexer := do
  let lexer ← lexer.saveKey
  let indent := lexer.indents.head?.elim 0 (· + 1)
  let found ← Plain.read lexer.inFlow indent lexer.cursor
  return { lexer with cursor := found.after, keyAllowed := found.endsLine }.emit
    (.scalar .plain found.text)

/-- Characters that start a token of their own, and so no plain scalar. -/
def indicators : List Char :=
  ['-', '?', ':', ',', '[', ']', '\x7b', '\x7d', '#', '&', '*', '!', '|', '>', '\'', '"', '%', '@',
    '\x60']

/-- Whether a plain scalar starts with a character and what comes after it. -/
def startsPlain (lexer : Lexer) (c : Char) (rest : List Char) : Bool :=
  (!isGap c && !indicators.contains c) || (c == '-' && !rest.head?.any isBlank) ||
    (!lexer.inFlow && (c == '?' || c == ':') && !startsGap rest)

/-- Read one token whose first character is given with what comes after it. -/
def token (lexer : Lexer) (c : Char) (rest : List Char) : Except Error Lexer :=
  let spaced := lexer.inFlow || startsGap rest
  if c == '%' && lexer.cursor.column == 0 then lexer.directive
  else if lexer.cursor.atMarker '-' then lexer.documentMark .documentStart
  else if lexer.cursor.atMarker '.' then lexer.documentMark .documentEnd
  else if c == '[' then lexer.flowStart .flowSequenceStart
  else if c == '\x7b' then lexer.flowStart .flowMappingStart
  else if c == ']' then lexer.flowEnd .flowSequenceEnd
  else if c == '\x7d' then lexer.flowEnd .flowMappingEnd
  else if c == ',' then lexer.mark 1 true .flowEntry
  else if c == '-' && startsGap rest then lexer.blockEntry
  else if c == '?' && spaced then lexer.explicitKey
  else if c == ':' && spaced then lexer.value
  else if c == '*' then lexer.name .reference
  else if c == '&' then lexer.name .anchor
  else if c == '!' then lexer.tag
  else if c == '|' && !lexer.inFlow then lexer.block .literal
  else if c == '>' && !lexer.inFlow then lexer.block .folded
  else if c == '\'' then lexer.quoted .singleQuoted
  else if c == '"' then lexer.quoted .doubleQuoted
  else if lexer.startsPlain c rest then lexer.plain
  else .error .strayCharacter

/-- Read tokens up to the end of the text. A step consumes a character at least. -/
def run : Nat → Lexer → Except Error Lexer
  | 0, lexer => .ok lexer
  | fuel + 1, lexer => do
    let lexer := skipSeparators (lexer.cursor.left + 1) lexer
    let lexer ← lexer.dropStale
    let lexer := lexer.closeBlocks (some lexer.cursor.column)
    match lexer.cursor.rest with
    | [] => (lexer.closeBlocks none).dropKey
    | c :: rest => run fuel (← lexer.token c rest)

end Lexer

/-- The tokens of a text. -/
def Token.ofText (text : String) : Except Error (List Token) :=
  let cs := text.toList
  if cs.all isAllowed then do
    let lexer ← Lexer.run (cs.length + 1) { cursor := { rest := cs } }
    return lexer.slots.reverse.flatMap fun slot => slot.before ++ [slot.token]
  else .error .forbiddenCharacter

end Covenant.Yaml
