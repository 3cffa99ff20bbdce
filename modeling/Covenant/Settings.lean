import Covenant.Document.Reading
import Covenant.NameMap

/-!
# Settings of a catalogue

Where a catalogue looks for protocols, which other names it gives to protocols, whether a
protocol may be declared anew, and whether the standard protocols are in it from the start.
Every setting has a default.
-/
namespace Covenant

/-- Settings from which a catalogue is built. -/
structure Settings where
  /-- Directories searched for protocol files, in order. -/
  searchPaths : List String := ["protocols"]
  /-- Other names, each with the canonical name it stands for. -/
  aliases : NameMap String := .empty
  /-- Whether a different protocol of the same name replaces the one before it. -/
  allowRedeclaration : Bool := false
  /-- Whether the standard protocols are in the catalogue. -/
  includeStandard : Bool := true
deriving DecidableEq, Inhabited

namespace Reading

variable {m : Type → Type} [Monad m] [MonadExceptOf Fault m] {ν : Type} (reading : Reading m ν)

/-- Read a map of texts; of two entries with one key the later wins. -/
def textMap (value : ν) : m (NameMap String) := do
  let entries ← (← reading.table value).mapM fun entry => do
    return (entry.1, ← reading.text entry.2)
  return .ofList entries

/-- Read settings, the fields in the order of their names. -/
def settings (value : ν) : m Settings := do
  let fields ← reading.record
    ["search_paths", "aliases", "allow_redeclaration", "include_standard"] value
  let default : Settings := {}
  let aliases ← optional fields "aliases" default.aliases reading.textMap
  let allowRedeclaration ←
    optional fields "allow_redeclaration" default.allowRedeclaration reading.flag
  let includeStandard ← optional fields "include_standard" default.includeStandard reading.flag
  let searchPaths ←
    optional fields "search_paths" default.searchPaths (reading.list reading.path)
  return { searchPaths, aliases, allowRedeclaration, includeStandard }

end Reading

end Covenant
