import Covenant.Catalogue.Error

/-!
# The log of a catalogue

Operations say what they do in records. A record keeps what it is about; its text is one function
of it.
-/
namespace Covenant

/-- What registering a protocol did. -/
inductive Outcome
  /-- The name is new. -/
  | added
  /-- The same contract was there. -/
  | unchanged
  /-- Another contract of the name was replaced. -/
  | replaced
deriving DecidableEq

namespace Outcome

/-- The outcome in a message. -/
def text : Outcome → String
  | added => "Added"
  | unchanged => "Unchanged"
  | replaced => "Replaced"

end Outcome

/-- How much a record matters. -/
inductive LogLevel
  /-- What an operation does. -/
  | debug
  /-- What went wrong without failing the operation. -/
  | warn
deriving DecidableEq

/-- One record of the log. -/
inductive LogRecord
  /-- A name was given to a protocol. -/
  | aliasAdded (alternate target : String)
  /-- A protocol is about to be stored. -/
  | registering (protocol : String) (outcome : Outcome)
  /-- A look-up went through an alias. -/
  | aliasFollowed (alternate target : String)
  /-- A file gave no declarations. -/
  | loadFailed (path : String) (error : CatalogueError)
  /-- A link to a directory was passed over. -/
  | linkPassedOver (path : String)
  /-- A surface conforms to a protocol. -/
  | conforms (type protocol : String)
  /-- A surface does not conform to a protocol. -/
  | doesNotConform (type protocol : String) (mismatches : Nat)
deriving DecidableEq

namespace LogRecord

/-- How much a record matters. -/
def level : LogRecord → LogLevel
  | loadFailed _ _ => .warn
  | _ => .debug

/-- The wording of a record. -/
def message : LogRecord → String
  | aliasAdded alternate target => "Protocol alias " ++ alternate ++ " -> " ++ target
  | registering protocol outcome =>
    "Registering protocol " ++ protocol ++ " (" ++ outcome.text ++ ")"
  | aliasFollowed alternate target => "Resolved alias " ++ alternate ++ " -> " ++ target
  | loadFailed path error => "Failed to load protocol from " ++ path ++ ": " ++ error.message
  | linkPassedOver path => "Not following symlinked directory " ++ path
  | conforms type protocol => type ++ " conforms to " ++ protocol
  | doesNotConform type protocol mismatches =>
    type ++ " does not conform to " ++ protocol ++ " (" ++ toString mismatches ++ " mismatch(es))"

end LogRecord

end Covenant
