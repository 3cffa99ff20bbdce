import Covenant.NameMap
import Covenant.Number.Binary

/-!
# JSON values

A JSON value distinguishes integers from other numbers. Its integers are those of 64 bits with
or without a sign; a number outside them, with a fraction or with an exponent is of the double
format, and so is negative zero. The members of an object are kept in a list; `ofMembers` puts
them in ascending order of their keys, the later of two with one key winning.
-/
namespace Covenant

/-- A number of a JSON value. -/
inductive Json.Number
  /-- An integer of 64 bits. -/
  | integer (i : Int)
  /-- Any other number. -/
  | real (x : Double)

/-- A JSON value. -/
inductive Json
  /-- The absent value. -/
  | null
  /-- A truth value. -/
  | bool (b : Bool)
  /-- A number. -/
  | number (n : Json.Number)
  /-- A text. -/
  | string (s : String)
  /-- Values in order. -/
  | array (items : List Json)
  /-- Values under keys. -/
  | object (members : List (String × Json))

namespace Json

instance : Inhabited Json := ⟨null⟩

/-- The object with some members; of two with one key the later wins. -/
def ofMembers (members : List (String × Json)) : Json := object (NameMap.ofList members).entries

/-- The object of a map. -/
def ofMap (map : NameMap Json) : Json := object map.entries

/-- An integer as a value. -/
def ofInt (i : Int) : Json := number (.integer i)

/-- A natural number as a value. -/
def ofNat (n : Nat) : Json := ofInt n

/-- Texts in order as a value. -/
def ofTexts (texts : List String) : Json := array (texts.map string)

/-- The value of a member of an object. -/
def member? (json : Json) (key : String) : Option Json :=
  match json with
  | object members => members.lookup key
  | _ => none

end Json

end Covenant
