import Covenant.Json.Basic
import Covenant.Number.Decimal

/-!
# JSON texts

The compact text of a JSON value. A number that is no integer keeps a point or an exponent, so
it is read back as one; without an exponent it is written from a hundred-thousandth up to ten
quadrillion. A value that is not finite is written as `null`.
-/
namespace Covenant

namespace Binary

/-- Exponents of the first digit from which on and up to which a number has a point. -/
def pointedExponents : Int × Int := (-5, 15)

/-- A finite number with a point or an exponent. -/
def pointed {format : FloatFormat} (x : Binary format) : List Char :=
  let decimal := x.shortest .even
  let (least, greatest) := pointedExponents
  (if x.isNegative then ['-'] else []) ++
    if decimal.digits = 0 then ['0', '.', '0']
    else if least ≤ decimal.leadingExponent ∧ decimal.leadingExponent ≤ greatest then
      decimal.positional ++ if 0 ≤ decimal.exponent then ['.', '0'] else []
    else decimal.scientific

end Binary

namespace Json

/-- The written form of a character between quotes. -/
def escapeChar (c : Char) : List Char :=
  match c with
  | '"' => ['\\', '"']
  | '\\' => ['\\', '\\']
  | '\x08' => ['\\', 'b']
  | '\x0c' => ['\\', 'f']
  | '\n' => ['\\', 'n']
  | '\r' => ['\\', 'r']
  | '\t' => ['\\', 't']
  | _ =>
    if c.toNat < 0x20 then
      ['\\', 'u', '0', '0', Nat.digitChar (c.toNat / 16), Nat.digitChar (c.toNat % 16)]
    else [c]

/-- A text between quotes. -/
def quote (s : String) : List Char := ['"'] ++ s.toList.flatMap escapeChar ++ ['"']

/-- The text of a number. -/
def Number.text : Number → List Char
  | .integer i => (toString i).toList
  | .real x => if x.isFinite then x.pointed else ['n', 'u', 'l', 'l']

mutual

/-- The text of a value. -/
def render : Json → List Char
  | .null => ['n', 'u', 'l', 'l']
  | .bool true => ['t', 'r', 'u', 'e']
  | .bool false => ['f', 'a', 'l', 's', 'e']
  | .number n => n.text
  | .string s => quote s
  | .array items => ['['] ++ renderItems items ++ [']']
  | .object members => ['\x7b'] ++ renderMembers members ++ ['\x7d']

/-- The texts of values with commas between them. -/
def renderItems : List Json → List Char
  | [] => []
  | [item] => render item
  | item :: next :: rest => render item ++ [','] ++ renderItems (next :: rest)

/-- The texts of members with commas between them. -/
def renderMembers : List (String × Json) → List Char
  | [] => []
  | [(key, value)] => quote key ++ [':'] ++ render value
  | (key, value) :: next :: rest =>
    quote key ++ [':'] ++ render value ++ [','] ++ renderMembers (next :: rest)

end

/-- The compact text of a value. -/
def text (json : Json) : String := String.ofList json.render

end Json

end Covenant
