import Covenant.Json.Printer
import Covenant.Json.Written
import Covenant.Number.Complex

/-!
# Complex numbers as JSON

A complex number is written as an object of its two parts, and read from such an object or from
an array of two numbers. Reading goes by what the text says: a part given twice is refused, and
members of other names may hold anything that is well formed.
-/
namespace Covenant

namespace Complex

/-- The text of a complex number. -/
def jsonText (z : Complex) : String :=
  String.ofList <| ['\x7b'] ++ Json.quote "re" ++ [':'] ++ (Json.Number.real z.re).text ++ [','] ++
    Json.quote "im" ++ [':'] ++ (Json.Number.real z.im).text ++ ['\x7d']

/-- The number of a tree. -/
def part? : Json.Written → Option Double
  | .number numeral => numeral.number?.map Json.Number.toDouble
  | _ => none

/-- The value of a member that has to be there once. -/
def member? (members : List (String × Json.Written)) (name : String) : Option Json.Written :=
  match members.filter (·.1 == name) with
  | [entry] => some entry.2
  | _ => none

/-- The complex number of a tree. -/
def ofWritten? : Json.Written → Option Complex
  | .array [re, im] => do return ⟨← part? re, ← part? im⟩
  | .object members => do
    let named ← members.mapM fun (member : Option String × Json.Written) => do
      return (← member.1, member.2)
    return ⟨← part? (← member? named "re"), ← part? (← member? named "im")⟩
  | _ => none

/-- The complex number that a JSON text writes. -/
def ofJsonText? (text : String) : Option Complex := (Json.Written.read? text).bind ofWritten?

end Complex

end Covenant
