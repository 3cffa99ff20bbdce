/-!
# Reading records from documents

A record is read in the same way from every notation: fields by their names, a default for an
absent field that has one, unknown fields passed over, no field twice. What differs between
notations is which values count as a text, a truth value, a list, a map, a record or a variant.
`Reading` holds those answers, so that each record has one reader for all notations.
-/
namespace Covenant

/-- Why a document does not hold the record that is asked for. -/
inductive Fault
  /-- A value is of the wrong kind. -/
  | wrongKind (found wanted : String)
  /-- A field without a default is absent. -/
  | missingField (name : String)
  /-- A field occurs twice. -/
  | repeatedField (name : String)
  /-- A record written as a list has more items than fields. -/
  | surplusItems
  /-- A variant of no known name. -/
  | unknownVariant (name : String)
  /-- References lead to more values than a document of its length may hold. -/
  | tooManyReferences
deriving DecidableEq

namespace Fault

/-- The wording of a fault. -/
def message : Fault → String
  | wrongKind found wanted => "invalid type: " ++ found ++ ", expected " ++ wanted
  | missingField name => "missing field " ++ name
  | repeatedField name => "repeated field " ++ name
  | surplusItems => "more items than fields"
  | unknownVariant name => "unknown variant " ++ name
  | tooManyReferences => "too many references"

end Fault

/-- A value that names one of several forms, and may carry content. -/
inductive Variant (ν : Type)
  /-- A name alone. -/
  | plain (name : String)
  /-- A name with content. -/
  | carrying (name : String) (content : ν)

/-- How the values of a notation answer to the kinds that a record asks for. -/
structure Reading (m : Type → Type) (ν : Type) where
  /-- The value as a text. -/
  text : ν → m String
  /-- The value as a path. -/
  path : ν → m String
  /-- The value as a truth value. -/
  flag : ν → m Bool
  /-- The value as a list. -/
  items : ν → m (List ν)
  /-- The value as a map from texts, in the order of the document. -/
  table : ν → m (List (String × ν))
  /-- The value as a record with the given fields in order. -/
  record : List String → ν → m (List (String × ν))
  /-- The value as a variant. -/
  variant : ν → m (Variant ν)
  /-- The value as the content of a variant that carries none. -/
  nothing : ν → m Unit

namespace Reading

variable {m : Type → Type} [Monad m] [MonadExceptOf Fault m] {ν α : Type}

/-- The value of a field that may be absent. -/
def field? (entries : List (String × ν)) (name : String) : m (Option ν) :=
  match entries.filter (·.1 == name) with
  | [] => pure none
  | [entry] => pure (some entry.2)
  | _ => throw (Fault.repeatedField name)

/-- A field that has to be present. -/
def required (entries : List (String × ν)) (name : String) (read : ν → m α) : m α := do
  match ← field? entries name with
  | some value => read value
  | none => throw (Fault.missingField name)

/-- A field that has a default. -/
def optional (entries : List (String × ν)) (name : String) (default : α) (read : ν → m α) :
    m α := do
  match ← field? entries name with
  | some value => read value
  | none => pure default

/-- A list of what its items hold. -/
def list (reading : Reading m ν) (read : ν → m α) (value : ν) : m (List α) := do
  (← reading.items value).mapM read

/-- The fields of a record that is written as a list. -/
def positional (names : List String) (items : List ν) : m (List (String × ν)) :=
  if names.length < items.length then throw Fault.surplusItems else pure (names.zip items)

end Reading

end Covenant
