import Covenant.Yaml.Scalar

/-!
# Tokens of a YAML text

What the layout and the marks of a YAML text say, once indentation has been turned into explicit
starts and ends and every key has been marked as one. Tags are kept as bytes, since an escaped
tag need not be a text.
-/
namespace Covenant.Yaml

/-- A tag or a part of one. -/
abbrev TagBytes := List UInt8

/-- One token. -/
inductive Token
  /-- The version that a document asks for. -/
  | version (major minor : Nat)
  /-- A handle that stands for the start of tags. -/
  | handle (name : List Char) (meaning : TagBytes)
  /-- The mark of the start of a document. -/
  | documentStart
  /-- The mark of the end of a document. -/
  | documentEnd
  /-- A sequence starts by its indentation. -/
  | blockSequenceStart
  /-- A mapping starts by its indentation. -/
  | blockMappingStart
  /-- The indentation of a collection ends. -/
  | blockEnd
  /-- An opening bracket. -/
  | flowSequenceStart
  /-- A closing bracket. -/
  | flowSequenceEnd
  /-- An opening brace. -/
  | flowMappingStart
  /-- A closing brace. -/
  | flowMappingEnd
  /-- The dash of an item. -/
  | blockEntry
  /-- A comma. -/
  | flowEntry
  /-- A key comes next. -/
  | key
  /-- A value comes next. -/
  | value
  /-- A reference to an anchor. -/
  | reference (name : List Char)
  /-- The anchor of the next value. -/
  | anchor (name : List Char)
  /-- The tag of the next value: a handle, which is empty for a tag written in full, and what
  follows it. -/
  | tag (handle : List Char) (suffix : TagBytes)
  /-- A scalar. -/
  | scalar (style : Style) (text : List Char)
deriving DecidableEq

namespace Tag

/-- A character that may stand in a tag as itself. Brackets and commas may only where no flow
collection could be meant. -/
def isUri (inFull : Bool) (c : Char) : Bool :=
  isWord c ||
    [';', '/', '?', ':', '@', '&', '=', '+', '$', '.', '!', '~', '*', '\'', '(', ')'].contains c ||
    (inFull && [',', '[', ']'].contains c)

/-- How many bytes the code of a character has, by the first of them. -/
def codeWidth? (byte : Nat) : Option Nat :=
  if byte < 0x80 then some 1
  else if 0xc0 ≤ byte ∧ byte < 0xe0 then some 2
  else if 0xe0 ≤ byte ∧ byte < 0xf0 then some 3
  else if 0xf0 ≤ byte ∧ byte < 0xf8 then some 4
  else none

/-- A byte written as two hexadecimal digits after a percent sign. -/
def escapedByte? : List Char → Option (Nat × List Char)
  | '%' :: high :: low :: rest => do
    return ((← Quoted.hexDigit? high) * 16 + (← Quoted.hexDigit? low), rest)
  | _ => none

/-- The further bytes of the code of a character. -/
def continuation? : Nat → List Char → Option (TagBytes × List Char)
  | 0, cs => some ([], cs)
  | count + 1, cs => do
    let (byte, rest) ← escapedByte? cs
    if 0x80 ≤ byte ∧ byte < 0xc0 then
      let (bytes, after) ← continuation? count rest
      return (byte.toUInt8 :: bytes, after)
    else none

/-- The bytes of one escaped character. -/
def escaped? (cs : List Char) : Option (TagBytes × List Char) := do
  let (first, rest) ← escapedByte? cs
  let width ← codeWidth? first
  let (bytes, after) ← continuation? (width - 1) rest
  return (first.toUInt8 :: bytes, after)

/-- The bytes of the characters of a tag, and what comes after them. -/
def uri (inFull : Bool) : Nat → List Char → Except Error (TagBytes × List Char)
  | 0, cs => .ok ([], cs)
  | fuel + 1, cs =>
    match cs with
    | '%' :: _ =>
      match escaped? cs with
      | some (bytes, rest) => do
        let (more, after) ← uri inFull fuel rest
        return (bytes ++ more, after)
      | none => .error .badTag
    | c :: rest =>
      if isUri inFull c then do
        let (more, after) ← uri inFull fuel rest
        return (c.toNat.toUInt8 :: more, after)
      else .ok ([], c :: rest)
    | [] => .ok ([], [])

/-- A tag text of which one byte at least has to be there. -/
def nonemptyUri (inFull : Bool) (cs : List Char) : Except Error (TagBytes × List Char) := do
  let (bytes, rest) ← uri inFull cs.length cs
  if rest.length = cs.length then throw .badTag
  return (bytes, rest)

/-- A handle: an exclamation mark, a word that may be empty, and a second mark if it is there. -/
def handle? : List Char → Option (List Char × List Char)
  | '!' :: rest =>
    let word := rest.takeWhile isWord
    match rest.drop word.length with
    | '!' :: after => some ('!' :: word ++ ['!'], after)
    | after => some ('!' :: word, after)
  | _ => none

/-- The bytes of characters of ASCII. -/
def asciiBytes (cs : List Char) : TagBytes := cs.map (·.toNat.toUInt8)

/-- Read a tag from its exclamation mark: in full between angle brackets, behind a handle of two
marks, or behind one mark alone. -/
def read (cursor : Cursor) : Except Error (Token × Cursor) :=
  match cursor.rest with
  | '!' :: '<' :: rest => do
    let (bytes, rest) ← nonemptyUri true rest
    match rest with
    | '>' :: rest => return (.tag [] bytes, cursor.moveTo rest)
    | _ => throw .badTag
  | cs =>
    match handle? cs with
    | none => .error .badTag
    | some (handle, rest) => do
      if handle.length > 1 ∧ handle.getLast? = some '!' then
        let (bytes, rest) ← nonemptyUri false rest
        return (.tag handle bytes, cursor.moveTo rest)
      else
        let (bytes, rest) ← uri false rest.length rest
        let suffix := asciiBytes (handle.drop 1) ++ bytes
        let token : Token :=
          if suffix.isEmpty then .tag [] (asciiBytes ['!']) else .tag ['!'] suffix
        return (token, cursor.moveTo rest)

end Tag

namespace Anchor

/-- A character that may come right after the name of an anchor. -/
def isDelimiter (c : Char) : Bool :=
  isGap c || ['?', ':', ',', ']', '\x7d', '%', '@', '\x60'].contains c

/-- Read the name of an anchor or a reference from the mark before it. -/
def read (cursor : Cursor) : Except Error (List Char × Cursor) :=
  let rest := cursor.rest.drop 1
  let name := rest.takeWhile isWord
  let after := rest.drop name.length
  if name.isEmpty || after.head?.any (!isDelimiter ·) then .error .badAnchor
  else .ok (name, cursor.advance (1 + name.length))

end Anchor

namespace Directive

/-- The digits of a part of a version, no more than nine of them. -/
def versionPart? (cs : List Char) : Option (Nat × List Char) :=
  let digits := cs.takeWhile fun c => '0' ≤ c && c ≤ '9'
  if digits.isEmpty || 9 < digits.length then none
  else some (digits.foldl (fun n c => n * 10 + (c.toNat - 48)) 0, cs.drop digits.length)

/-- The parts of a version. -/
def version? (cs : List Char) : Option (Token × List Char) := do
  let (major, rest) ← versionPart? cs
  match rest with
  | '.' :: rest =>
    let (minor, rest) ← versionPart? rest
    return (.version major minor, rest)
  | _ => none

/-- A handle and what it stands for. A handle ends in a mark, and the two are set apart. -/
def handle (cs : List Char) : Except Error (Token × List Char) :=
  match Tag.handle? cs with
  | none => .error .badDirective
  | some (name, rest) =>
    if name.getLast? ≠ some '!' ∨ !rest.head?.any isBlank then .error .badDirective
    else do
      let (bytes, rest) ← Tag.nonemptyUri true (rest.dropWhile isBlank)
      if !startsGap rest then throw .badDirective
      return (.handle name bytes, rest)

/-- The parts of a directive after its name. -/
def parts (name rest : List Char) : Except Error (Token × List Char) :=
  if name = ['Y', 'A', 'M', 'L'] then
    match version? rest with
    | some found => .ok found
    | none => .error .badDirective
  else if name = ['T', 'A', 'G'] then handle rest
  else .error .badDirective

/-- Read a directive from its percent sign up to the end of its line. -/
def read (cursor : Cursor) : Except Error (Token × Cursor) := do
  let cs := cursor.rest.drop 1
  let name := cs.takeWhile isWord
  let rest := cs.drop name.length
  if name.isEmpty || !startsGap rest then throw .badDirective
  let (token, rest) ← parts name (rest.dropWhile isBlank)
  let cursor := (cursor.moveTo rest).skipWhile isBlank
  let cursor := if cursor.isAt '#' then cursor.skipWhile (!isBreak ·) else cursor
  if !cursor.atEnd && !cursor.atBreak then throw .badDirective
  return (token, cursor.crossBreak.2)

end Directive

end Covenant.Yaml
