import Covenant.Number.Binary

/-!
# What a plain scalar means

A plain scalar is nothing, a truth value, an integer, a number or else a text, in this order. An
integer may be written in one of four bases behind a sign; digits after a leading zero are a text.
-/
namespace Covenant.Yaml

/-- What a scalar means. -/
inductive Resolved
  /-- Nothing. -/
  | null
  /-- A truth value. -/
  | bool (b : Bool)
  /-- An integer. -/
  | integer (i : Int)
  /-- A number. -/
  | real (x : Double)
  /-- A text. -/
  | text

namespace Resolved

/-- The words for nothing. -/
def isNull (cs : List Char) : Bool :=
  cs == ['~'] || cs == "null".toList || cs == "Null".toList || cs == "NULL".toList

/-- The words for truth values. -/
def bool? (cs : List Char) : Option Bool :=
  if cs == "true".toList || cs == "True".toList || cs == "TRUE".toList then some true
  else if cs == "false".toList || cs == "False".toList || cs == "FALSE".toList then some false
  else none

/-- A decimal digit. -/
def isDigit (c : Char) : Bool := '0' ≤ c && c ≤ '9'

/-- A sign. -/
def isSign (c : Char) : Bool := c == '+' || c == '-'

/-- The value of a digit in a base of at most sixteen. -/
def digit? (base : Nat) (c : Char) : Option Nat :=
  let value? :=
    if '0' ≤ c ∧ c ≤ '9' then some (c.toNat - 48)
    else if 'a' ≤ c ∧ c ≤ 'f' then some (c.toNat - 87)
    else if 'A' ≤ c ∧ c ≤ 'F' then some (c.toNat - 55)
    else none
  value?.bind fun value => if value < base then some value else none

/-- The number of digits in a base, of which there is one at least. -/
def natOfDigits? (base : Nat) (cs : List Char) : Option Nat :=
  if cs.isEmpty then none
  else cs.foldlM (fun n c => (digit? base c).map (n * base + ·)) 0

/-- The bases that a letter after a zero stands for. -/
def base? : Char → Option Nat
  | 'x' => some 16
  | 'o' => some 8
  | 'b' => some 2
  | _ => none

/-- Digits after a leading zero, which are a text. -/
def isPadded (cs : List Char) : Bool :=
  match cs.drop (if cs.head?.any isSign then 1 else 0) with
  | '0' :: digits => !digits.isEmpty && digits.all isDigit
  | _ => false

/-- The size of an integer after its sign. -/
def magnitude? (cs : List Char) : Option Nat :=
  match cs with
  | '0' :: letter :: digits =>
    match base? letter with
    | some base => natOfDigits? base digits
    | none => if isPadded cs then none else natOfDigits? 10 cs
  | _ => natOfDigits? 10 cs

/-- An integer with an optional sign. Past 128 bits digits are no integer any more. -/
def integer? (cs : List Char) : Option Int :=
  let signed? : Option Int := match cs with
    | '-' :: digits => (magnitude? digits).map fun n => -(n : Int)
    | '+' :: digits => (magnitude? digits).map Int.ofNat
    | digits => (magnitude? digits).map Int.ofNat
  signed?.filter fun i => -(Nat.pow 2 127 : Int) ≤ i ∧ i < Nat.pow 2 128

/-- The exponent of a number: a sign and digits after its letter, if it is there. -/
def exponent? (cs : List Char) : Option Int :=
  match cs with
  | [] => some 0
  | letter :: rest =>
    if letter == 'e' || letter == 'E' then
      match rest with
      | '-' :: digits => (natOfDigits? 10 digits).map fun n => -(n : Int)
      | '+' :: digits => (natOfDigits? 10 digits).map Int.ofNat
      | digits => (natOfDigits? 10 digits).map Int.ofNat
    else none

/-- The finite number that is nearest to digits, the first no zero, times a power of ten. Powers
far from what the digits make up for overflow or vanish whatever the digits are. -/
def nearest? (negative : Bool) (digits : List Char) (power : Int) : Option Double :=
  let significand := (natOfDigits? 10 digits).getD 0
  if significand = 0 then some (.ofParts negative 0)
  else if 400 < digits.length + power then none
  else if digits.length + power < -400 then some (.ofParts negative 0)
  else
    let x := Binary.ofQuotient negative
      (significand * Nat.pow 10 power.toNat) (Nat.pow 10 (-power).toNat)
    if x.isFinite then some x else none

/-- A finite number after its sign: digits with a point among or beside them, and an exponent. -/
def finite? (negative : Bool) (cs : List Char) : Option Double :=
  let whole := cs.takeWhile isDigit
  let rest := cs.drop whole.length
  let (fraction, rest) := match rest with
    | '.' :: rest => (rest.takeWhile isDigit, rest.dropWhile isDigit)
    | rest => ([], rest)
  if whole.isEmpty && fraction.isEmpty then none
  else (exponent? rest).bind fun exponent =>
    nearest? negative ((whole ++ fraction).dropWhile (· == '0')) (exponent - fraction.length)

/-- The words for infinity. -/
def isInfinity (cs : List Char) : Bool :=
  cs == ".inf".toList || cs == ".Inf".toList || cs == ".INF".toList

/-- The words for no number. -/
def isNaN (cs : List Char) : Bool :=
  cs == ".nan".toList || cs == ".NaN".toList || cs == ".NAN".toList

/-- A number with an optional sign. -/
def real? (cs : List Char) : Option Double :=
  if isNaN cs then some (.ofParts false (FloatFormat.double.infinityBits + 1))
  else
    let (negative, size) := match cs with
      | '-' :: rest => (true, rest)
      | '+' :: rest => (false, rest)
      | rest => (false, rest)
    if isInfinity size then some (.ofParts negative FloatFormat.double.infinityBits)
    else finite? negative size

/-- What a plain scalar means. -/
def ofPlain (cs : List Char) : Resolved :=
  if cs.isEmpty || isNull cs then .null
  else match bool? cs with
  | some b => .bool b
  | none => match integer? cs with
  | some i => .integer i
  | none => if isPadded cs then .text else match real? cs with
  | some x => .real x
  | none => .text

end Resolved

end Covenant.Yaml
