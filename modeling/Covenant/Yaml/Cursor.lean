/-!
# Positions in a YAML text

A cursor is the rest of a text together with the place it starts at. It moves over characters of
a line one by one and over a line break as a whole; a carriage return and the line feed after it
are one break. Three of the five breaks mean a line feed, the two separators mean themselves.
Columns count characters, and the offset counts the bytes of their UTF-8 form.
-/
namespace Covenant.Yaml

/-- A space or a tab. -/
def isBlank (c : Char) : Bool := c == ' ' || c == '\t'

/-- A character that ends a line. -/
def isBreak (c : Char) : Bool :=
  c == '\n' || c == '\r' || c == '\u0085' || c == '\u2028' || c == '\u2029'

/-- A blank or a character that ends a line. -/
def isGap (c : Char) : Bool := isBlank c || isBreak c

/-- A letter, digit, dash or underscore. -/
def isWord (c : Char) : Bool :=
  ('0' ≤ c && c ≤ '9') || ('a' ≤ c && c ≤ 'z') || ('A' ≤ c && c ≤ 'Z') || c == '-' || c == '_'

/-- A character that a YAML text may hold. -/
def isAllowed (c : Char) : Bool :=
  c == '\t' || c == '\n' || c == '\r' || (' ' ≤ c && c ≤ '~') || c == '\u0085' ||
    ('\u00a0' ≤ c && c ≤ '\ufffd') || 0x10000 ≤ c.toNat

/-- Whether a list of characters is empty or starts with a blank or a break. -/
def startsGap : List Char → Bool
  | [] => true
  | c :: _ => isGap c

/-- How many bytes the UTF-8 form of some characters takes. -/
def byteCount (cs : List Char) : Nat := cs.foldl (fun count c => count + c.utf8Size) 0

/-- A place in a text and what comes after it. -/
structure Cursor where
  /-- The characters that are left. -/
  rest : List Char
  /-- How many characters are left. -/
  left : Nat := rest.length
  /-- Bytes before the place. -/
  offset : Nat := 0
  /-- Lines before the place. -/
  line : Nat := 0
  /-- Characters before the place in its line. -/
  column : Nat := 0

namespace Cursor

/-- Move over some characters of the line. -/
def advance (cursor : Cursor) (count : Nat) : Cursor :=
  { cursor with
    rest := cursor.rest.drop count
    left := cursor.left - count
    offset := cursor.offset + byteCount (cursor.rest.take count)
    column := cursor.column + count }

/-- Move to a later place in the line, given what comes after it. -/
def moveTo (cursor : Cursor) (rest : List Char) : Cursor :=
  cursor.advance (cursor.left - rest.length)

/-- Move over the characters of the line that satisfy a test. -/
def skipWhile (cursor : Cursor) (test : Char → Bool) : Cursor :=
  cursor.advance (cursor.rest.takeWhile test).length

/-- Move over a line break, if there is one, and say what it means. -/
def crossBreak (cursor : Cursor) : List Char × Cursor :=
  match cursor.rest with
  | '\r' :: '\n' :: rest =>
    (['\n'], ⟨rest, cursor.left - 2, cursor.offset + 2, cursor.line + 1, 0⟩)
  | c :: rest =>
    if isBreak c then
      let meaning := if c == '\u2028' || c == '\u2029' then c else '\n'
      ([meaning], ⟨rest, cursor.left - 1, cursor.offset + c.utf8Size, cursor.line + 1, 0⟩)
    else ([], cursor)
  | [] => ([], cursor)

/-- The next character. -/
def peek (cursor : Cursor) : Option Char := cursor.rest.head?

/-- Whether nothing is left. -/
def atEnd (cursor : Cursor) : Bool := cursor.rest.isEmpty

/-- Whether a line break comes next. -/
def atBreak (cursor : Cursor) : Bool := cursor.peek.any isBreak

/-- Whether a given character comes next. -/
def isAt (cursor : Cursor) (c : Char) : Bool := cursor.peek == some c

/-- Whether a line starts here with three given characters and nothing joined to them. -/
def atMarker (cursor : Cursor) (c : Char) : Bool :=
  cursor.column == 0 && [c, c, c].isPrefixOf cursor.rest && startsGap (cursor.rest.drop 3)

/-- Whether a line starts here with the mark of the start or the end of a document. -/
def atDocumentMarker (cursor : Cursor) : Bool := cursor.atMarker '-' || cursor.atMarker '.'

end Cursor

end Covenant.Yaml
