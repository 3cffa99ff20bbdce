import Covenant.Text.Printable

/-!
# Quoted text

A text in a message stands between double quotes. The quote and the backslash are escaped, the
four common controls have letters of their own, and every other character that is not shown as
itself is written as its code point.
-/
namespace Covenant.Text

/-- The written form of a character between quotes. -/
def quoteChar (c : Char) : List Char :=
  match c with
  | '\x00' => ['\\', '0']
  | '\t' => ['\\', 't']
  | '\r' => ['\\', 'r']
  | '\n' => ['\\', 'n']
  | '\\' => ['\\', '\\']
  | '"' => ['\\', '"']
  | _ =>
    if isShown c then [c]
    else ['\\', 'u', '\x7b'] ++ Nat.toDigits 16 c.toNat ++ ['\x7d']

/-- A text between double quotes. -/
def quote (text : String) : String :=
  String.ofList (['"'] ++ text.toList.flatMap quoteChar ++ ['"'])

end Covenant.Text
