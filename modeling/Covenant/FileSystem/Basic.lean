/-!
# File systems

A file system is a tree of directories, files and links. A directory lists its entries in an
order of its own, which means nothing; its readability matters because listing may be refused.
A link holds the path it stands for.
-/
namespace Covenant

/-- What a name in a directory stands for. -/
inductive FileNode
  /-- Bytes. -/
  | file (content : ByteArray)
  /-- Names, each once, and whether they may be listed. -/
  | directory (readable : Bool) (entries : List (String × FileNode))
  /-- A path to something else. -/
  | link (target : String)

namespace FileNode

instance : Inhabited FileNode := ⟨directory true []⟩

/-- Whether a node is a directory itself. -/
def isDirectory : FileNode → Bool
  | directory _ _ => true
  | _ => false

/-- The node of a name in a directory. -/
def entry? (node : FileNode) (name : String) : Option FileNode :=
  match node with
  | directory _ entries => entries.lookup name
  | _ => none

/-- The node below a node along some names. -/
def below? (node : FileNode) : List String → Option FileNode
  | [] => some node
  | name :: rest => (node.entry? name).bind (·.below? rest)

/-- Put a node in the place of another along some names, or at the end of the entries of the
directory that they lead to. -/
def place (new : FileNode) : List String → FileNode → FileNode
  | [], _ => new
  | name :: rest, directory readable entries =>
    match entries.lookup name with
    | some old =>
      directory readable <| entries.map fun entry =>
        if entry.1 = name then (name, place new rest old) else entry
    | none => if rest.isEmpty then directory readable (entries ++ [(name, new)])
      else directory readable entries
  | _ :: _, node => node

end FileNode

/-- A file system and the directory that relative paths start from. -/
structure FileSystem where
  /-- The directory at the root. -/
  root : FileNode
  /-- The names that lead from the root to the current directory. -/
  current : List String := []

/-- Why a file cannot be used. -/
inductive FileFault
  /-- A name does not exist. -/
  | notFound
  /-- Listing or passing is refused. -/
  | permissionDenied
  /-- A name leads on from something that is no directory. -/
  | notDirectory
  /-- A directory where a file is asked for. -/
  | isDirectory
  /-- A name longer than any that could exist. -/
  | nameTooLong
  /-- Links lead on and on. -/
  | tooManyLinks
  /-- Bytes that are no text. -/
  | invalidText
  /-- A path that holds a zero byte. -/
  | zeroInPath
deriving DecidableEq

namespace FileFault

/-- The wording of a fault. -/
def message : FileFault → String
  | notFound => "No such file or directory (os error 2)"
  | permissionDenied => "Permission denied (os error 13)"
  | notDirectory => "Not a directory (os error 20)"
  | isDirectory => "Is a directory (os error 21)"
  | nameTooLong => "File name too long (os error 36)"
  | tooManyLinks => "Too many levels of symbolic links (os error 40)"
  | invalidText => "stream did not contain valid UTF-8"
  | zeroInPath => "file name contained an unexpected NUL byte"

end FileFault

end Covenant
