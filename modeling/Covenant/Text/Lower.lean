import Covenant.Text.Cased

/-!
# Lowering

Bytes lower by the ASCII rule alone. A character lowers to the text that Unicode maps it to,
which for one character is two characters long. A text lowers character by character, except
that a capital sigma at the end of a word becomes the final form of the letter; where a word
ends is decided by the text around the sigma and not by the lowered text.
-/
namespace Covenant.Text

/-- The lower-case form of an ASCII capital; every other byte is itself. -/
def lowerByte (byte : UInt8) : UInt8 :=
  if 0x41 ≤ byte && byte ≤ 0x5a then byte + 0x20 else byte

/-- The lower-case form of an ASCII capital; every other character is itself. -/
def lowerAscii (c : Char) : Char :=
  if 'A' ≤ c && c ≤ 'Z' then Char.ofNat (c.toNat + 0x20) else c

/-- The lower-case form of a character outside ASCII that has one of a single character. -/
def lowerByTable (c : Char) : Char :=
  match loweringRuns.find? (·.holds c.toNat) with
  | some run => Char.ofNat (c.toNat + run.offset).toNat
  | none => c

/-- The lower-case form of a character, wherever it stands. Only the capital dotted I has one
of two characters. -/
def lowerChar (c : Char) : List Char :=
  if c.toNat < 0x80 then [lowerAscii c]
  else if c = 'İ' then ['i', '\u0307']
  else [lowerByTable c]

/-- Whether the first character that is not passed over has case. -/
def startsCased (cs : List Char) : Bool :=
  match cs.find? (!caseIgnorableSpans.holds ·) with
  | some c => casedSpans.holds c
  | none => false

/-- A capital sigma ends its word when a cased character stands before it and none after it.
The characters before it are given nearest first. -/
def endsWord (before after : List Char) : Bool := startsCased before && !startsCased after

/-- Lower the characters of a text, given those already passed, nearest first. -/
def lowerAfter (before : List Char) : List Char → List Char
  | [] => []
  | c :: after =>
    (if c = 'Σ' then [if endsWord before after then 'ς' else 'σ'] else lowerChar c)
      ++ lowerAfter (c :: before) after

/-- The lower-case form of a text. -/
def lower (text : String) : String := String.ofList (lowerAfter [] text.toList)

end Covenant.Text
