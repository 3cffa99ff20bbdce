import Covenant.FileSystem.Basic
import Covenant.FileSystem.Path

/-!
# From paths to nodes

A path is followed step by step from the root or the current directory. A link is replaced by
its path, which starts where the link stands; no more than forty links are followed on the way.
What a path leads to is a place: the names that lead there from the root without a link.
-/
namespace Covenant

/-- Where a path leads. -/
inductive Destination
  /-- To the node at a place. -/
  | found (place : List String)
  /-- To a name that a directory does not have. -/
  | absent (directory : List String) (name : String)

namespace FileSystem

/-- How many bytes a name may have. -/
def nameLimit : Nat := 255

/-- How many bytes a path may have. -/
def pathLimit : Nat := 4095

/-- How many links are followed on one way. -/
def linkLimit : Nat := 40

variable (system : FileSystem)

/-- The node at a place. -/
def nodeAt? (place : List String) : Option FileNode := system.root.below? place

/-- Follow steps from a place, given how to go on from where a link is met with the steps that
replace it. The last name is followed if it is a link only when asked for. -/
def walkSteps (followLast : Bool)
    (onLink : List String → List Path.Step → Except FileFault Destination) :
    List String → List Path.Step → Except FileFault Destination
  | place, [] => .ok (.found place)
  | place, step :: rest =>
    match system.nodeAt? place with
    | some (.directory _ entries) =>
      match step with
      | .stay => walkSteps followLast onLink place rest
      | .up => walkSteps followLast onLink place.dropLast rest
      | .down name =>
        if nameLimit < name.utf8ByteSize then .error .nameTooLong
        else
          match entries.lookup name with
          | none => if rest.isEmpty then .ok (.absent place name) else .error .notFound
          | some (.link target) =>
            if rest.isEmpty && !followLast then .ok (.found (place ++ [name]))
            else if target.isEmpty then .error .notFound
            else
              onLink (if Path.isAbsolute target then [] else place) (Path.steps target ++ rest)
          | some _ => walkSteps followLast onLink (place ++ [name]) rest
    | _ => .error .notDirectory

/-- Follow steps from a place over as many links as are left. -/
def walk (followLast : Bool) : Nat → List String → List Path.Step → Except FileFault Destination
  | 0 => walkSteps system followLast fun _ _ => .error .tooManyLinks
  | links + 1 => walkSteps system followLast (walk followLast links)

/-- Follow a path. -/
def destination (path : String) (followLast : Bool) : Except FileFault Destination :=
  if path.toList.contains '\x00' then .error .zeroInPath
  else if pathLimit < path.utf8ByteSize then .error .nameTooLong
  else if path.isEmpty then .error .notFound
  else
    system.walk followLast linkLimit (if Path.isAbsolute path then [] else system.current)
      (Path.steps path)

/-- The place that a path leads to. -/
def locate (path : String) : Except FileFault (List String) := do
  match ← system.destination path true with
  | .found place => return place
  | .absent _ _ => throw .notFound

/-- Whether a path leads to anything. -/
def pathExists (path : String) : Bool := (system.locate path).toBool

/-- The text of a file. -/
def readText (path : String) : Except FileFault String := do
  match system.nodeAt? (← system.locate path) with
  | some (.file content) =>
    match String.fromUTF8? content with
    | some text => return text
    | none => throw .invalidText
  | _ => throw .isDirectory

/-- Put a node at a path, in place of what it leads to. -/
def put (path : String) (node : FileNode) : Except FileFault FileSystem := do
  match ← system.destination path true with
  | .found place => return { system with root := node.place place system.root }
  | .absent directory name =>
    return { system with root := node.place (directory ++ [name]) system.root }

/-- Put a link at a path that leads to nothing. -/
def putLink (path target : String) : Except FileFault FileSystem := do
  match ← system.destination path false with
  | .found _ => throw .notDirectory
  | .absent directory name =>
    return { system with root := FileNode.place (.link target) (directory ++ [name]) system.root }

/-- Make the directories that lead along steps from a place, as far as they are missing. -/
def makeSteps (system : FileSystem) (base : List String) :
    Nat → List Path.Step → Except FileFault FileSystem
  | 0, _ => return system
  | count + 1, steps => do
    let made ← makeSteps system base count steps
    match ← made.walk true linkLimit base (steps.take (count + 1)) with
    | .found _ => return made
    | .absent directory name =>
      return { made with
        root := FileNode.place (.directory true []) (directory ++ [name]) made.root }

/-- Make a directory, and those above it as far as they are missing. -/
def makeDirectory (path : String) : Except FileFault FileSystem :=
  let steps := Path.steps path
  makeSteps system (if Path.isAbsolute path then [] else system.current) steps.length steps

/-- The path of the directory that holds what a path leads to. -/
def parentPath (path : String) : String :=
  let names := path.toList.reverse.dropWhile (· == '/')
  String.ofList (names.dropWhile (· ≠ '/')).reverse

end FileSystem

end Covenant
