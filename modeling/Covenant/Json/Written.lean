import Covenant.Json.Numeral

/-!
# JSON as it is written

`Written.read?` reads a JSON text into a tree that keeps what the text says: numerals with all
their digits, objects with repeated keys, and texts whose escapes name half of a surrogate pair,
which stand for no characters. The tree means a value when all its parts do and it is not nested
too deeply; of members with one key the last counts.
-/
namespace Covenant.Json

/-- A JSON text as a tree. A text with half a surrogate pair is `none`. -/
inductive Written
  /-- The word `null`. -/
  | null
  /-- One of the words `true` and `false`. -/
  | bool (b : Bool)
  /-- A numeral. -/
  | number (numeral : Numeral)
  /-- A quoted text. -/
  | string (text : Option String)
  /-- Trees in brackets. -/
  | array (items : List Written)
  /-- Trees under quoted keys, in braces. -/
  | object (members : List (Option String × Written))

namespace Written

/-- Blanks between the parts of a JSON text. -/
def isBlank (c : Char) : Bool := c == ' ' || c == '\n' || c == '\t' || c == '\r'

/-- The text after leading blanks. -/
def skipBlanks (cs : List Char) : List Char := cs.dropWhile isBlank

/-- The value of a digit. -/
def digit? (c : Char) : Option Nat := if '0' ≤ c ∧ c ≤ '9' then some (c.toNat - 48) else none

/-- The value of a hexadecimal digit. -/
def hexDigit? (c : Char) : Option Nat :=
  if '0' ≤ c ∧ c ≤ '9' then some (c.toNat - 48)
  else if 'a' ≤ c ∧ c ≤ 'f' then some (c.toNat - 87)
  else if 'A' ≤ c ∧ c ≤ 'F' then some (c.toNat - 55)
  else none

/-- Leading digits, and the text after them. -/
def digits : List Char → List Nat × List Char
  | [] => ([], [])
  | c :: rest =>
    match digit? c with
    | some d => let (ds, after) := digits rest; (d :: ds, after)
    | none => ([], c :: rest)

/-- Leading digits, of which there is one at least. -/
def digits? (cs : List Char) : Option (List Nat × List Char) :=
  match digits cs with
  | ([], _) => none
  | found => some found

/-- Digits before a point: no zero comes before other digits. -/
def whole? (cs : List Char) : Option (List Nat × List Char) :=
  match digits cs with
  | ([], _) => none
  | (0 :: _ :: _, _) => none
  | found => some found

/-- The digits after a point, if there is one. -/
def fraction? : List Char → Option (List Nat × List Char)
  | '.' :: rest => digits? rest
  | cs => some ([], cs)

/-- The sign and digits after the mark of an exponent. -/
def signedDigits? : List Char → Option (Option (Bool × List Nat) × List Char)
  | '-' :: rest => (digits? rest).map fun (ds, after) => (some (true, ds), after)
  | '+' :: rest => (digits? rest).map fun (ds, after) => (some (false, ds), after)
  | cs => (digits? cs).map fun (ds, after) => (some (false, ds), after)

/-- The exponent, if there is one. -/
def exponent? : List Char → Option (Option (Bool × List Nat) × List Char)
  | 'e' :: rest => signedDigits? rest
  | 'E' :: rest => signedDigits? rest
  | cs => some (none, cs)

/-- A numeral after its sign. -/
def numeral? (negative : Bool) (cs : List Char) : Option (Numeral × List Char) := do
  let (whole, cs) ← whole? cs
  let (fraction, cs) ← fraction? cs
  let (exponent, cs) ← exponent? cs
  return (⟨negative, whole, fraction, exponent⟩, cs)

/-- What has been read of a quoted text: its characters, last first, unless an escape was half a
surrogate pair, and the first half of a pair whose second half has to come next. -/
structure Quotation where
  /-- The characters, last first. -/
  characters : Option (List Char)
  /-- The first half of a pair. -/
  half : Option Nat

namespace Quotation

/-- A character comes next. -/
def push (quotation : Quotation) (c : Char) : Quotation :=
  match quotation.half with
  | none => ⟨quotation.characters.map (c :: ·), none⟩
  | some _ => ⟨none, none⟩

/-- A unit of sixteen bits comes next: a character, or half of one beyond sixteen bits. -/
def pushUnit (quotation : Quotation) (unit : Nat) : Quotation :=
  if 0xd800 ≤ unit ∧ unit < 0xdc00 then
    match quotation.half with
    | none => ⟨quotation.characters, some unit⟩
    | some _ => ⟨none, none⟩
  else if 0xdc00 ≤ unit ∧ unit < 0xe000 then
    match quotation.half with
    | none => ⟨none, none⟩
    | some high =>
      let c := Char.ofNat (0x10000 + (high - 0xd800) * 0x400 + (unit - 0xdc00))
      ⟨quotation.characters.map (c :: ·), none⟩
  else quotation.push (Char.ofNat unit)

/-- The text that was read. -/
def text? (quotation : Quotation) : Option String :=
  match quotation.half with
  | none => quotation.characters.map fun cs => String.ofList cs.reverse
  | some _ => none

end Quotation

/-- The character that a letter after a backslash stands for. -/
def escape? : Char → Option Char
  | '"' => some '"'
  | '\\' => some '\\'
  | '/' => some '/'
  | 'b' => some '\x08'
  | 'f' => some '\x0c'
  | 'n' => some '\n'
  | 'r' => some '\r'
  | 't' => some '\t'
  | _ => none

/-- Read a quoted text up to its closing quote. -/
def quoted? (quotation : Quotation) : List Char → Option (Option String × List Char)
  | [] => none
  | '"' :: rest => some (quotation.text?, rest)
  | '\\' :: 'u' :: a :: b :: c :: d :: rest =>
    match hexDigit? a, hexDigit? b, hexDigit? c, hexDigit? d with
    | some a, some b, some c, some d =>
      quoted? (quotation.pushUnit (((a * 16 + b) * 16 + c) * 16 + d)) rest
    | _, _, _, _ => none
  | '\\' :: letter :: rest =>
    match escape? letter with
    | some c => quoted? (quotation.push c) rest
    | none => none
  | c :: rest => if c.toNat < 0x20 then none else quoted? (quotation.push c) rest

mutual

/-- Read one tree; every step inwards or onwards spends fuel, and the length of the text is
enough of it. -/
def tree? : Nat → List Char → Option (Written × List Char)
  | 0, _ => none
  | fuel + 1, cs =>
    match skipBlanks cs with
    | 'n' :: 'u' :: 'l' :: 'l' :: rest => some (.null, rest)
    | 't' :: 'r' :: 'u' :: 'e' :: rest => some (.bool true, rest)
    | 'f' :: 'a' :: 'l' :: 's' :: 'e' :: rest => some (.bool false, rest)
    | '"' :: rest => (quoted? ⟨some [], none⟩ rest).map fun (text, after) => (.string text, after)
    | '-' :: rest => (numeral? true rest).map fun (numeral, after) => (.number numeral, after)
    | '[' :: rest =>
      match skipBlanks rest with
      | ']' :: after => some (.array [], after)
      | inner => (items? fuel inner).map fun (items, after) => (.array items, after)
    | '\x7b' :: rest =>
      match skipBlanks rest with
      | '\x7d' :: after => some (.object [], after)
      | inner => (members? fuel inner).map fun (members, after) => (.object members, after)
    | other => (numeral? false other).map fun (numeral, after) => (.number numeral, after)

/-- Read the trees of an array, of which there is one at least. -/
def items? : Nat → List Char → Option (List Written × List Char)
  | 0, _ => none
  | fuel + 1, cs => do
    let (item, rest) ← tree? fuel cs
    match skipBlanks rest with
    | ',' :: rest =>
      let (items, after) ← items? fuel rest
      return (item :: items, after)
    | ']' :: after => return ([item], after)
    | _ => none

/-- Read the members of an object, of which there is one at least. -/
def members? : Nat → List Char → Option (List (Option String × Written) × List Char)
  | 0, _ => none
  | fuel + 1, cs =>
    match skipBlanks cs with
    | '"' :: rest => do
      let (key, rest) ← quoted? ⟨some [], none⟩ rest
      match skipBlanks rest with
      | ':' :: rest =>
        let (value, rest) ← tree? fuel rest
        match skipBlanks rest with
        | ',' :: rest =>
          let (members, after) ← members? fuel rest
          return ((key, value) :: members, after)
        | '\x7d' :: after => return ([(key, value)], after)
        | _ => none
      | _ => none
    | _ => none

end

/-- Read a text that holds one tree and nothing else. -/
def read? (text : String) : Option Written :=
  let cs := text.toList
  match tree? (2 * cs.length + 2) cs with
  | some (tree, rest) => if (skipBlanks rest).isEmpty then some tree else none
  | none => none

/-- The value of a tree with at most the given number of arrays and objects inside each other. -/
def value? : Nat → Written → Option Json
  | _, .null => some .null
  | _, .bool b => some (.bool b)
  | _, .number numeral => numeral.number?.map .number
  | _, .string text => text.map .string
  | 0, .array _ => none
  | depth + 1, .array items => (items.mapM (value? depth)).map .array
  | 0, .object _ => none
  | depth + 1, .object members => do
    let named ← members.mapM fun (member : Option String × Written) => do
      let key ← member.1
      let value ← value? depth member.2
      return (key, value)
    return ofMembers named

/-- How deeply arrays and objects may be nested. -/
def depthLimit : Nat := 127

end Written

/-- The value that a JSON text writes. -/
def read? (text : String) : Option Json :=
  match Written.read? text with
  | some tree => Written.value? Written.depthLimit tree
  | none => none

end Covenant.Json
