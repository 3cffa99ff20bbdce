/-!
# Paths

A path is a text: names with slashes between them, from the root if it starts with one. Two
slashes count as one, and a slash at the end asks for a directory. A name's extension follows its
last dot, unless nothing comes before that.
-/
namespace Covenant.Path

/-- One step of a path. -/
inductive Step
  /-- To the same directory. -/
  | stay
  /-- To the directory above. -/
  | up
  /-- To a name in the directory. -/
  | down (name : String)
deriving DecidableEq

/-- Split characters at slashes. -/
def segments : List Char → List (List Char)
  | [] => [[]]
  | '/' :: rest => [] :: segments rest
  | c :: rest =>
    match segments rest with
    | [] => [[c]]
    | segment :: others => (c :: segment) :: others

/-- The step of a segment between slashes. -/
def stepOf (segment : List Char) : Step :=
  if segment = ['.'] then .stay
  else if segment = ['.', '.'] then .up
  else .down (String.ofList segment)

/-- The steps of a path; a slash at the end is a step to the same directory. -/
def steps (path : String) : List Step :=
  let found := segments path.toList
  (found.filter (!·.isEmpty)).map stepOf ++
    if found.getLast? = some [] ∧ found.any (!·.isEmpty) then [.stay] else []

/-- Whether a path starts at the root. -/
def isAbsolute (path : String) : Bool := path.toList.head? == some '/'

/-- A path taken from another one. An absolute path stays as it is. -/
def join (base path : String) : String :=
  if isAbsolute path then path
  else if base.isEmpty || base.toList.getLast? == some '/' then base ++ path
  else base ++ "/" ++ path

/-- The extension of a name. -/
def extension? (name : String) : Option String :=
  let reversed := name.toList.reverse
  let ending := reversed.takeWhile (· ≠ '.')
  match reversed.drop ending.length with
  | '.' :: stem => if stem.isEmpty then none else some (String.ofList ending.reverse)
  | _ => none

/-- Whether a name has one of the extensions of YAML files. -/
def isYaml (name : String) : Bool :=
  extension? name == some "yaml" || extension? name == some "yml"

end Covenant.Path
