import Covenant.Yaml.Cursor
import Covenant.Yaml.Error

/-!
# Scalars in a YAML text

The characters of a scalar, read from where it starts. In plain and quoted scalars one line break
folds into a space and further ones stay; blanks around breaks vanish. A block of lines keeps its
breaks or folds them, and its header says which of the last ones count.
-/
namespace Covenant.Yaml

/-- How a scalar is written. -/
inductive Style
  /-- Without quotes. -/
  | plain
  /-- Between single quotes. -/
  | singleQuoted
  /-- Between double quotes. -/
  | doubleQuoted
  /-- As a block of lines that keep their breaks. -/
  | literal
  /-- As a block of lines that fold. -/
  | folded
deriving DecidableEq

/-- What lies between two runs of characters of a plain or quoted scalar. -/
structure Gap where
  /-- The blanks of a gap without breaks. -/
  blanks : List Char := []
  /-- The first break; a break that is escaped counts as an empty one. -/
  first : Option (List Char) := none
  /-- The breaks after the first. -/
  others : List Char := []

namespace Gap

/-- A blank comes next; beside a break it does not count. -/
def addBlank (gap : Gap) (c : Char) : Gap :=
  if gap.first.isSome then gap else { gap with blanks := gap.blanks ++ [c] }

/-- A break comes next. -/
def addBreak (gap : Gap) (meaning : List Char) : Gap :=
  if gap.first.isSome then { gap with others := gap.others ++ meaning }
  else { gap with blanks := [], first := some meaning }

/-- What a gap means inside a scalar. -/
def fold (gap : Gap) : List Char :=
  match gap.first with
  | none => gap.blanks
  | some ['\n'] => if gap.others.isEmpty then [' '] else gap.others
  | some first => first ++ gap.others

/-- Read a gap. In lines after a break a tab may not stand left of the given column. -/
def read (indent : Nat) : Nat → Gap → Cursor → Except Error (Gap × Cursor)
  | 0, gap, cursor => .ok (gap, cursor)
  | fuel + 1, gap, cursor =>
    match cursor.rest with
    | [] => .ok (gap, cursor)
    | c :: _ =>
      if isBlank c then
        if gap.first.isSome && c == '\t' && cursor.column < indent then .error .tabIndentation
        else read indent fuel (gap.addBlank c) (cursor.advance 1)
      else if isBreak c then
        let (meaning, after) := cursor.crossBreak
        read indent fuel (gap.addBreak meaning) after
      else .ok (gap, cursor)

end Gap

/-- A scalar that was read: its characters and the place after it. -/
structure ScalarRead where
  /-- The characters. -/
  text : List Char
  /-- Whether a line break follows the last of them. -/
  endsLine : Bool := false
  /-- The place after the scalar. -/
  after : Cursor

namespace Plain

/-- Characters that end a plain scalar inside a flow collection. -/
def isFlowIndicator (c : Char) : Bool :=
  c == ',' || c == '[' || c == ']' || c == '\x7b' || c == '\x7d'

/-- A run of characters of a plain scalar. -/
def run (inFlow : Bool) : List Char → Except Error (List Char)
  | [] => .ok []
  | c :: rest =>
    if isGap c then .ok []
    else if inFlow && c == ':' && rest.head?.any (fun next => isFlowIndicator next || next == '?')
    then .error .ambiguousColon
    else if (c == ':' && startsGap rest) || (inFlow && isFlowIndicator c) then .ok []
    else return c :: (← run inFlow rest)

/-- Read runs and the gaps between them, given the gap before the first. -/
def readFrom (inFlow : Bool) (indent : Nat) : Nat → Gap → Cursor → Except Error ScalarRead
  | 0, gap, cursor => .ok ⟨[], gap.first.isSome, cursor⟩
  | fuel + 1, gap, cursor =>
    if cursor.atDocumentMarker || cursor.isAt '#' then .ok ⟨[], gap.first.isSome, cursor⟩
    else do
      let taken ← run inFlow cursor.rest
      if taken.isEmpty then return ⟨[], gap.first.isSome, cursor⟩
      let cursor := cursor.advance taken.length
      let (nextGap, cursor) ← Gap.read indent cursor.left {} cursor
      let further ←
        if !inFlow && cursor.column < indent then pure ⟨[], nextGap.first.isSome, cursor⟩
        else readFrom inFlow indent fuel nextGap cursor
      return { further with text := gap.fold ++ taken ++ further.text }

/-- Read a plain scalar whose lines may not start left of a column. -/
def read (inFlow : Bool) (indent : Nat) (cursor : Cursor) : Except Error ScalarRead :=
  readFrom inFlow indent (cursor.left + 1) {} cursor

end Plain

namespace Quoted

/-- The characters of a run between single quotes, and how many write them. A quote is written
twice. -/
def singleRun : List Char → List Char × Nat
  | '\'' :: '\'' :: rest => let (taken, count) := singleRun rest; ('\'' :: taken, count + 2)
  | '\'' :: _ => ([], 0)
  | c :: rest =>
    if isGap c then ([], 0) else let (taken, count) := singleRun rest; (c :: taken, count + 1)
  | [] => ([], 0)

/-- The character that a letter after a backslash stands for. -/
def escape? : Char → Option Char
  | '0' => some '\x00'
  | 'a' => some '\x07'
  | 'b' => some '\x08'
  | 't' => some '\t'
  | '\t' => some '\t'
  | 'n' => some '\n'
  | 'v' => some '\x0b'
  | 'f' => some '\x0c'
  | 'r' => some '\r'
  | 'e' => some '\x1b'
  | ' ' => some ' '
  | '"' => some '"'
  | '/' => some '/'
  | '\\' => some '\\'
  | 'N' => some '\u0085'
  | '_' => some '\u00a0'
  | 'L' => some '\u2028'
  | 'P' => some '\u2029'
  | _ => none

/-- How many digits follow a letter that stands for a character by its code. -/
def codeLength? : Char → Option Nat
  | 'x' => some 2
  | 'u' => some 4
  | 'U' => some 8
  | _ => none

/-- The value of a hexadecimal digit. -/
def hexDigit? (c : Char) : Option Nat :=
  if '0' ≤ c ∧ c ≤ '9' then some (c.toNat - 48)
  else if 'a' ≤ c ∧ c ≤ 'f' then some (c.toNat - 87)
  else if 'A' ≤ c ∧ c ≤ 'F' then some (c.toNat - 55)
  else none

/-- The character of a code in hexadecimal digits. -/
def charOfHex? (digits : List Char) : Option Char := do
  let code ← digits.foldlM (fun code c => (hexDigit? c).map (code * 16 + ·)) 0
  if code.isValidChar then some (Char.ofNat code) else none

/-- The character of an escape after its backslash, and how many characters write it. -/
def escaped? (letter : Char) (rest : List Char) : Option (Char × Nat) :=
  match codeLength? letter with
  | some count =>
    let digits := rest.take count
    if digits.length < count then none else (charOfHex? digits).map (·, count + 1)
  | none => (escape? letter).map (·, 1)

/-- The characters of a run between double quotes, and how many write them. A backslash before a
line break ends the run. -/
def doubleRun : Nat → List Char → Except Error (List Char × Nat)
  | 0, _ => .ok ([], 0)
  | fuel + 1, cs =>
    match cs with
    | [] => .ok ([], 0)
    | '"' :: _ => .ok ([], 0)
    | ['\\'] => .error .badEscape
    | '\\' :: letter :: rest =>
      if isBreak letter then .ok ([], 0)
      else
        match escaped? letter rest with
        | some (c, width) => do
          let (taken, count) ← doubleRun fuel (rest.drop (width - 1))
          return (c :: taken, count + width + 1)
        | none => .error .badEscape
    | c :: rest =>
      if isGap c then .ok ([], 0)
      else do
        let (taken, count) ← doubleRun fuel rest
        return (c :: taken, count + 1)

/-- The characters of a run between quotes, and how many write them. -/
def run (style : Style) (cursor : Cursor) : Except Error (List Char × Nat) :=
  match style with
  | .singleQuoted => .ok (singleRun cursor.rest)
  | _ => doubleRun cursor.left cursor.rest

/-- The quote around a scalar. -/
def mark : Style → Char
  | .singleQuoted => '\''
  | _ => '"'

/-- Read runs and the gaps between them up to the closing quote. -/
def readFrom (style : Style) : Nat → Cursor → Except Error ScalarRead
  | 0, _ => .error .unclosedQuote
  | fuel + 1, cursor =>
    if cursor.atDocumentMarker || cursor.atEnd then .error .unclosedQuote
    else do
      let (taken, count) ← run style cursor
      let cursor := cursor.advance count
      let escaped := style != .singleQuoted && cursor.isAt '\\'
      let cursor := if escaped then (cursor.advance 1).crossBreak.2 else cursor
      if cursor.isAt (mark style) then return ⟨taken, false, cursor.advance 1⟩
      let gap : Gap := if escaped then { first := some [] } else {}
      let (gap, cursor) ← Gap.read 0 cursor.left gap cursor
      let further ← readFrom style fuel cursor
      return { further with text := taken ++ gap.fold ++ further.text }

/-- Read a quoted scalar from its opening quote. -/
def read (style : Style) (cursor : Cursor) : Except Error ScalarRead :=
  readFrom style (cursor.left + 1) (cursor.advance 1)

end Quoted

namespace Block

/-- Which of the breaks at the end of a block count. -/
inductive Chomping
  /-- None. -/
  | strip
  /-- The first. -/
  | clip
  /-- All. -/
  | keep
deriving DecidableEq

/-- The header of a block: which last breaks count, and how far the block is indented beyond
what it stands in. -/
structure Header where
  /-- Which last breaks count. -/
  chomping : Chomping := .clip
  /-- The indentation, if the header gives it. -/
  increment : Option Nat := none

/-- The chomping of a sign. -/
def chomping? : Char → Option Chomping
  | '+' => some .keep
  | '-' => some .strip
  | _ => none

/-- The indentation of a digit. -/
def increment? (c : Char) : Option Nat := if '0' ≤ c ∧ c ≤ '9' then some (c.toNat - 48) else none

/-- The sign and the digit of a header, in either order, and what comes after them. -/
def header (cs : List Char) : Header × List Char :=
  match cs with
  | [] => ({}, [])
  | c :: rest =>
    match chomping? c, increment? c with
    | some chomping, _ =>
      match rest.head?.bind increment? with
      | some increment => ({ chomping, increment := some increment }, rest.drop 1)
      | none => ({ chomping }, rest)
    | none, some increment =>
      match rest.head?.bind chomping? with
      | some chomping => ({ chomping, increment := some increment }, rest.drop 1)
      | none => ({ increment := some increment }, rest)
    | none, none => ({}, cs)

/-- Cross empty lines and the indentation of the next one: the breaks, the widest indentation
met, and the place after them. Without an indentation to stop at, all spaces are crossed. -/
def crossEmpty (indent : Option Nat) :
    Nat → List Char → Nat → Cursor → Except Error (List Char × Nat × Cursor)
  | 0, breaks, widest, cursor => .ok (breaks, widest, cursor)
  | fuel + 1, breaks, widest, cursor =>
    let spaces := (cursor.rest.takeWhile (· == ' ')).length
    let cursor := cursor.advance <| match indent with
      | some limit => min spaces (limit - cursor.column)
      | none => spaces
    let widest := max widest cursor.column
    let indents := match indent with
      | some limit => decide (cursor.column < limit)
      | none => true
    if indents && cursor.isAt '\t' then .error .tabIndentation
    else if cursor.atBreak then
      let (meaning, after) := cursor.crossBreak
      crossEmpty indent fuel (breaks ++ meaning) widest after
    else .ok (breaks, widest, cursor)

/-- A line of a block and what lies between it and the next one. -/
structure Line where
  /-- The characters of the line. -/
  text : List Char
  /-- The break that ends it. -/
  lineBreak : List Char
  /-- The breaks of the empty lines after it. -/
  emptyBreaks : List Char

/-- Whether a line starts with a blank. -/
def Line.startsBlank (line : Line) : Bool := line.text.head?.any isBlank

/-- What stands between a line and the next one. In a folded block, where neither starts with a
blank, a single break becomes a space, and of several the first goes. -/
def Line.joint (folds : Bool) (line next : Line) : List Char :=
  if folds && line.lineBreak == ['\n'] && !line.startsBlank && !next.startsBlank then
    if line.emptyBreaks.isEmpty then [' '] else line.emptyBreaks
  else line.lineBreak ++ line.emptyBreaks

/-- What stands after the last line. -/
def Line.ending (chomping : Chomping) (line : Line) : List Char :=
  match chomping with
  | .strip => []
  | .clip => line.lineBreak
  | .keep => line.lineBreak ++ line.emptyBreaks

/-- The text of lines. -/
def join (folds : Bool) (chomping : Chomping) : List Line → List Char
  | [] => []
  | [line] => line.text ++ line.ending chomping
  | line :: next :: rest => line.text ++ line.joint folds next ++ join folds chomping (next :: rest)

/-- The text of a block: empty lines come before its lines, and count for nothing by themselves
unless all breaks are kept. -/
def text (folds : Bool) (chomping : Chomping) (emptyBreaks : List Char) (lines : List Line) :
    List Char :=
  if lines.isEmpty && chomping != .keep then [] else emptyBreaks ++ join folds chomping lines

/-- Read the lines of a block that are indented to a column. -/
def readLines (indent : Nat) : Nat → Cursor → Except Error (List Line × Cursor)
  | 0, cursor => .ok ([], cursor)
  | fuel + 1, cursor =>
    if cursor.column == indent && !cursor.atEnd then do
      let text := cursor.rest.takeWhile (!isBreak ·)
      let (lineBreak, cursor) := (cursor.advance text.length).crossBreak
      let (emptyBreaks, _, cursor) ← crossEmpty (some indent) (cursor.left + 1) [] 0 cursor
      let (lines, cursor) ← readLines indent fuel cursor
      return (⟨text, lineBreak, emptyBreaks⟩ :: lines, cursor)
    else .ok ([], cursor)

/-- Read a block from its indicator. The lines it stands in are indented to the given column, if
to any. -/
def read (style : Style) (parent : Option Nat) (cursor : Cursor) : Except Error ScalarRead := do
  let (header, rest) := header (cursor.rest.drop 1)
  if header.increment = some 0 then throw .badBlockHeader
  let cursor := (cursor.moveTo rest).skipWhile isBlank
  let cursor := if cursor.isAt '#' then cursor.skipWhile (!isBreak ·) else cursor
  if !cursor.atEnd && !cursor.atBreak then throw .badBlockHeader
  let cursor := cursor.crossBreak.2
  let given := header.increment.map (parent.getD 0 + ·)
  let (emptyBreaks, widest, cursor) ← crossEmpty given (cursor.left + 1) [] 0 cursor
  let indent := given.getD (max widest (max (parent.elim 0 (· + 1)) 1))
  let (lines, cursor) ← readLines indent (cursor.left + 1) cursor
  return ⟨text (style == .folded) header.chomping emptyBreaks lines, false, cursor⟩

end Block

end Covenant.Yaml
