import Covenant.Text.Blank

/-!
# Protocols

A protocol is a structural interface: a name, other names it answers to, and the methods that a
type which keeps it exposes. `Protocol.fault?` decides whether a protocol is well formed and
names the first thing wrong with it. The six standard protocols are listed in catalogue order.
-/
namespace Covenant

/-- What a method promises to return. -/
inductive ReturnKind
  /-- Anything: a method without an annotation. -/
  | any
  /-- A truth value. -/
  | bool
  /-- An integer. -/
  | int
  /-- A floating-point number. -/
  | float
  /-- A complex number. -/
  | complex
  /-- A text. -/
  | str
  /-- Another type, by its name. -/
  | named (name : String)
deriving DecidableEq, Inhabited

namespace ReturnKind

/-- Whether a method that returns `found` meets a promise to return `expected`. `any` meets and
is met by everything, a truth value is an integer, and other kinds meet themselves alone. -/
def accepts (expected found : ReturnKind) : Bool :=
  expected == any || found == any || (expected == int && found == bool) || expected == found

/-- The kind in a signature. -/
def text : ReturnKind → String
  | any => "Any"
  | bool => "bool"
  | int => "int"
  | float => "float"
  | complex => "complex"
  | str => "str"
  | named name => name

end ReturnKind

/-- The signature of a method, without its receiver. -/
structure Signature where
  /-- Name of the method. -/
  name : String
  /-- Names of the parameters in call order. -/
  params : List String := []
  /-- What the method returns. -/
  returns : ReturnKind := .any
deriving DecidableEq, Inhabited

namespace Signature

/-- The number of arguments. -/
def arity (signature : Signature) : Nat := signature.params.length

/-- The signature for readers. -/
def text (signature : Signature) : String :=
  signature.name ++ "(" ++ ", ".intercalate signature.params ++ ") -> " ++ signature.returns.text

end Signature

/-- Where a protocol comes from. -/
inductive Origin
  /-- Declared here. -/
  | own
  /-- Part of the standard set. -/
  | standard
deriving DecidableEq, Inhabited

/-- A structural interface. -/
structure Protocol where
  /-- Canonical name. -/
  name : String
  /-- Other names it answers to, in order of declaration. -/
  aliases : List String := []
  /-- What it is for, in words. -/
  description : String := ""
  /-- Where it comes from. -/
  origin : Origin := .own
  /-- Required methods, in order of declaration. -/
  methods : List Signature := []
deriving DecidableEq, Inhabited

/-- What is wrong with a protocol. -/
inductive ProtocolFault
  /-- The name is blank. -/
  | blankName
  /-- No methods are declared. -/
  | noMethods (protocol : String)
  /-- A method has a blank name. -/
  | blankMethod (protocol : String)
  /-- Two methods have one name. -/
  | repeatedMethod (protocol method : String)
deriving DecidableEq

namespace ProtocolFault

/-- The wording of a fault. -/
def message : ProtocolFault → String
  | blankName => "protocol name must not be empty"
  | noMethods protocol => "protocol " ++ protocol ++ " declares no methods"
  | blankMethod protocol => "protocol " ++ protocol ++ " has a method with an empty name"
  | repeatedMethod protocol method =>
    "protocol " ++ protocol ++ " declares method " ++ method ++ " more than once"

end ProtocolFault

namespace Protocol

/-- Describe a protocol. -/
def withDescription (protocol : Protocol) (description : String) : Protocol :=
  { protocol with description }

/-- Say where a protocol comes from. -/
def withOrigin (protocol : Protocol) (origin : Origin) : Protocol := { protocol with origin }

/-- Give a protocol one more name, after those it has. -/
def withAlias (protocol : Protocol) (alternate : String) : Protocol :=
  { protocol with aliases := protocol.aliases ++ [alternate] }

/-- Require one more method, after those required. -/
def withMethod (protocol : Protocol) (method : Signature) : Protocol :=
  { protocol with methods := protocol.methods ++ [method] }

/-- The first fault among methods, given the names before them: a blank name counts before a
repeated one. -/
def methodFault? (protocol : String) (seen : List String) : List Signature → Option ProtocolFault
  | [] => none
  | method :: rest =>
    if Text.isBlank method.name then some (.blankMethod protocol)
    else if seen.contains method.name then some (.repeatedMethod protocol method.name)
    else methodFault? protocol (method.name :: seen) rest

/-- The first thing wrong with a protocol: its name, then a lack of methods, then its methods in
order. -/
def fault? (protocol : Protocol) : Option ProtocolFault :=
  if Text.isBlank protocol.name then some .blankName
  else if protocol.methods.isEmpty then some (.noMethods protocol.name)
  else methodFault? protocol.name [] protocol.methods

/-- The first required method of a name. -/
def method? (protocol : Protocol) (name : String) : Option Signature :=
  protocol.methods.find? (·.name == name)

/-- Whether a name is the canonical one or an alias. -/
def answersTo (protocol : Protocol) (name : String) : Bool :=
  protocol.name == name || protocol.aliases.contains name

/-- Two protocols are one contract when they differ at most in aliases and description. -/
def sameContract (left right : Protocol) : Bool :=
  left.name == right.name && left.origin == right.origin && left.methods == right.methods

/-- The standard protocols, in catalogue order. -/
def standard : List Protocol := [
  { name := "LowercaseConvertible"
    description := "Produces a lowercased form of itself"
    methods := [⟨"lower", [], .any⟩] },
  { name := "ContainmentCheckable"
    description := "Answers whether it contains an item"
    methods := [⟨"contains", ["item"], .bool⟩] },
  { name := "IntConvertible"
    aliases := ["SupportsInt"]
    description := "Converts to an integer"
    origin := .standard
    methods := [⟨"to_int", [], .int⟩] },
  { name := "FloatConvertible"
    aliases := ["SupportsFloat"]
    description := "Converts to a float"
    origin := .standard
    methods := [⟨"to_float", [], .float⟩] },
  { name := "ComplexConvertible"
    aliases := ["SupportsComplex"]
    description := "Converts to a complex number"
    origin := .standard
    methods := [⟨"to_complex", [], .complex⟩] },
  { name := "Sized"
    aliases := ["SizeQueryable", "SupportsLen"]
    description := "Reports its element count"
    origin := .standard
    methods := [⟨"size", [], .int⟩] }]

end Protocol

end Covenant
