import Covenant.Catalogue.Basic

/-!
# Checking surfaces against a catalogue

A surface is checked against the protocol that a name stands for. Every answer here is about the
same list of mismatches: diagnosing returns it, checking fails with it unless it is empty, and the
protocols that a surface satisfies are those whose list is empty.
-/
namespace Covenant.Catalogue

variable (catalogue : Catalogue)

/-- Everything that keeps a surface from conforming to the protocol of a name. -/
def diagnose (surface : Surface) (name : String) : Except ConformanceError (List Mismatch) :=
  match catalogue.resolve name with
  | some protocol => .ok (mismatches protocol surface)
  | none => .error (.unknownProtocol name)

/-- Whether a surface conforms to the protocol of a name, and else why not. -/
def check (surface : Surface) (name : String) : Except ConformanceError Unit :=
  match catalogue.diagnose surface name with
  | .ok [] => .ok ()
  | .ok found => .error (.notConforming surface.name name found)
  | .error error => .error error

/-- What a check says. -/
def checkLog (surface : Surface) (name : String) : List LogRecord :=
  catalogue.resolveLog name ++
    match catalogue.diagnose surface name with
    | .ok [] => [.conforms surface.name name]
    | .ok found => [.doesNotConform surface.name name found.length]
    | .error _ => []

/-- Whether a surface conforms to the protocol of a name; it does not if there is none. -/
def conforms (surface : Surface) (name : String) : Bool := (catalogue.check surface name).toBool

/-- The stored protocols that a surface satisfies, in ascending order of their names. -/
def satisfiedBy (surface : Surface) : List Protocol :=
  catalogue.list.filter fun protocol => (mismatches protocol surface).isEmpty

end Covenant.Catalogue
