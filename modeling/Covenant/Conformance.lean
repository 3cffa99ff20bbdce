import Covenant.Surface

/-!
# Conformance

A surface keeps a protocol when for every required method it exposes an overload of the same
name and number of arguments whose return is accepted. `mismatches` lists what is missing, one
entry for each required method that no overload meets, in order of the requirements; an empty
list is conformance. Methods that the protocol does not mention do not matter.
-/
namespace Covenant

/-- Why a surface does not meet a required method. -/
inductive Mismatch
  /-- No exposed method has its name. -/
  | missing (method : String)
  /-- No overload takes as many arguments; `found` is what the first overload takes. -/
  | arity (method : String) (expected found : Nat)
  /-- No overload of that arity returns what is accepted; `found` is what the first one returns. -/
  | returned (method : String) (expected found : ReturnKind)
deriving DecidableEq

namespace Mismatch

/-- The method that is not met. -/
def method : Mismatch → String
  | missing method => method
  | arity method _ _ => method
  | returned method _ _ => method

/-- The wording of a mismatch. -/
def message : Mismatch → String
  | missing method => "missing method " ++ method
  | arity method expected found =>
    method ++ " takes " ++ toString found ++ " argument(s), expected " ++ toString expected
  | returned method expected found =>
    method ++ " returns " ++ found.text ++ ", expected " ++ expected.text

end Mismatch

namespace Surface

/-- Why a surface does not meet a required method, if it does not. -/
def mismatch? (surface : Surface) (required : Signature) : Option Mismatch :=
  match surface.overloads required.name with
  | [] => some (.missing required.name)
  | first :: others =>
    match (first :: others).filter (·.arity == required.arity) with
    | [] => some (.arity required.name required.arity first.arity)
    | closest :: rest =>
      if (closest :: rest).any fun found => required.returns.accepts found.returns then none
      else some (.returned required.name required.returns closest.returns)

end Surface

/-- Everything that keeps a surface from conforming to a protocol. -/
def mismatches (protocol : Protocol) (surface : Surface) : List Mismatch :=
  protocol.methods.filterMap surface.mismatch?

end Covenant
