import Covenant.Text.Span

/-!
# Blank text

White space is the Unicode property `White_Space`, which holds more than the ASCII blanks and
not the zero-width characters. A text is blank when nothing else is in it.
-/
namespace Covenant.Text

/-- White space, in code point order. -/
def whiteSpaceSpans : Spans := [
  (0x09, 0x0d), (0x20, 0x20), (0x85, 0x85), (0xa0, 0xa0), (0x1680, 0x1680), (0x2000, 0x200a),
  (0x2028, 0x2029), (0x202f, 0x202f), (0x205f, 0x205f), (0x3000, 0x3000)]

/-- Whether a character is white space. -/
def isWhiteSpace (c : Char) : Bool := whiteSpaceSpans.holds c

/-- A text is blank when every character of it is white space; the empty text is blank. -/
def isBlank (text : String) : Bool := text.toList.all isWhiteSpace

end Covenant.Text
