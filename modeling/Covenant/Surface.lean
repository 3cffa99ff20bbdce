import Covenant.Protocol.Basic

/-!
# Surfaces of types

The surface of a type is what a checker sees of it: its name and the methods it exposes. A method
name may occur more than once; its occurrences are overloads.
-/
namespace Covenant

/-- The observable methods of a type. -/
structure Surface where
  /-- Name of the type, for messages. -/
  name : String
  /-- Exposed methods, overloads included. -/
  methods : List Signature := []
deriving DecidableEq, Inhabited

namespace Surface

/-- Expose one more method, after those exposed. -/
def withMethod (surface : Surface) (method : Signature) : Surface :=
  { surface with methods := surface.methods ++ [method] }

/-- The exposed methods of a name, in order. -/
def overloads (surface : Surface) (name : String) : List Signature :=
  surface.methods.filter (·.name == name)

/-- Whether a method of a name is exposed. -/
def exposes (surface : Surface) (name : String) : Bool := !(surface.overloads name).isEmpty

end Surface

end Covenant
