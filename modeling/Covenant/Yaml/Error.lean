import Covenant.Document.Reading

/-!
# Errors in YAML texts

Each way in which a YAML text can fail has a cause of its own, from a character that may not
occur to a value that is not what a record asks for.
-/
namespace Covenant.Yaml

/-- Why a YAML text cannot be read. -/
inductive Error
  /-- A character that no YAML text may hold. -/
  | forbiddenCharacter
  /-- A key that has to be followed by a colon is not. -/
  | missingColon
  /-- A dash where no item can start. -/
  | misplacedEntry
  /-- A question mark where no key can start. -/
  | misplacedKey
  /-- A colon where no value can start. -/
  | misplacedValue
  /-- A character that starts nothing. -/
  | strayCharacter
  /-- A directive that is malformed or unknown. -/
  | badDirective
  /-- An anchor or reference without a name or with one that is not delimited. -/
  | badAnchor
  /-- A malformed tag. -/
  | badTag
  /-- A malformed header of a block of lines. -/
  | badBlockHeader
  /-- A tab where spaces have to indent. -/
  | tabIndentation
  /-- A quoted text without an end. -/
  | unclosedQuote
  /-- An escape that stands for no character. -/
  | badEscape
  /-- A colon inside a flow collection that neither ends a key nor belongs to a text. -/
  | ambiguousColon
  /-- A directive that was given before. -/
  | repeatedDirective
  /-- A version other than 1.1 and 1.2. -/
  | unsupportedVersion
  /-- A tag with a handle that no directive declares. -/
  | unknownHandle
  /-- A reference to no anchor. -/
  | unknownAnchor
  /-- A token where a value has to start. -/
  | expectedValue
  /-- A token where a collection has to go on or end. -/
  | expectedItem
  /-- Content outside the one document. -/
  | expectedEnd
  /-- Collections nested too deeply. -/
  | tooDeep
  /-- A mapping that holds a key twice. -/
  | repeatedKey
  /-- A scalar that its tag does not allow. -/
  | unfitForTag
  /-- An integer beyond 64 bits. -/
  | integerRange
  /-- A value that is not what a record asks for. -/
  | unreadable (fault : Fault)
deriving DecidableEq

namespace Error

/-- The wording of an error. -/
def message : Error → String
  | forbiddenCharacter => "forbidden character"
  | missingColon => "missing colon after a key"
  | misplacedEntry => "an item cannot start here"
  | misplacedKey => "a key cannot start here"
  | misplacedValue => "a value cannot start here"
  | strayCharacter => "a character that starts nothing"
  | badDirective => "malformed directive"
  | badAnchor => "malformed anchor"
  | badTag => "malformed tag"
  | badBlockHeader => "malformed block header"
  | tabIndentation => "a tab cannot indent"
  | unclosedQuote => "quoted text without an end"
  | badEscape => "malformed escape"
  | ambiguousColon => "ambiguous colon"
  | repeatedDirective => "repeated directive"
  | unsupportedVersion => "unsupported version"
  | unknownHandle => "undeclared tag handle"
  | unknownAnchor => "undefined anchor"
  | expectedValue => "expected a value"
  | expectedItem => "expected an item or an end"
  | expectedEnd => "expected the end of the text"
  | tooDeep => "nested too deeply"
  | repeatedKey => "repeated key"
  | unfitForTag => "scalar unfit for its tag"
  | integerRange => "integer out of range"
  | unreadable fault => fault.message

end Error

end Covenant.Yaml
