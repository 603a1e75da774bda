import ClusterAudit.Text.Utf8

/-!
# The tokens of a YAML stream

A stream is cut into tokens before any structure is read from it. Indentation is turned into
tokens too: a token opens every block collection and another one closes it, so that the reader
of documents never looks at columns. `Fault` lists what can be wrong with a stream.
-/

namespace ClusterAudit.Yaml

/-- How a scalar is written. -/
inductive Style where
  /-- Without quotes. -/
  | plain
  /-- Between single quotes. -/
  | singleQuoted
  /-- Between double quotes. -/
  | doubleQuoted
  /-- As lines after a bar. -/
  | literal
  /-- As lines after a greater-than sign. -/
  | folded
deriving DecidableEq, Repr, Inhabited

/-- A tag, or a part of one. It is bytes and not text, because percent signs in a tag may spell
bytes that belong to no character. A byte that is zero ends it. -/
structure Tag where
  /-- Its bytes. -/
  bytes : List UInt8
deriving DecidableEq, Repr, Inhabited

namespace Tag

/-- The tag of a text. -/
def ofString (s : String) : Tag := ⟨Utf8.encode s.toList⟩

/-- The tag of bytes up to the first that is zero. -/
def ofBytes (bytes : List UInt8) : Tag := ⟨bytes.takeWhile (· != 0)⟩

/-- One part behind another. -/
def append (s t : Tag) : Tag := ⟨s.bytes ++ t.bytes⟩

/-- What stands in front of the names of the tags that every document knows. -/
def common : Tag := ofString "tag:yaml.org,2002:"

/-- The tag for null. -/
def null : Tag := common.append (ofString "null")

/-- The tag for truth values. -/
def bool : Tag := common.append (ofString "bool")

/-- The tag for integers. -/
def int : Tag := common.append (ofString "int")

/-- The tag for numbers. -/
def real : Tag := common.append (ofString "float")

/-- The name of a tag of the document's own: what stands behind the exclamation mark in front, as
long as it is text. The mark alone is its own name. -/
def ownName? (t : Tag) : Option String :=
  match t.bytes with
  | [0x21] => some "!"
  | 0x21 :: name => Utf8.decode? name
  | _ => none

/-- Whether an exclamation mark stands in front. -/
def isOwn (t : Tag) : Bool :=
  t.bytes.head? == some 0x21

end Tag

/-- What is wrong with a stream that cannot be read. -/
inductive Fault where
  /-- A character that no document may hold. -/
  | controlCharacter
  /-- A key that ends on a later line than it starts, or without a colon. -/
  | unfinishedKey
  /-- A list item where none may stand. -/
  | misplacedEntry
  /-- A mapping key where none may stand. -/
  | misplacedKey
  /-- A mapping value where none may stand. -/
  | misplacedValue
  /-- A character that starts no token. -/
  | unexpectedCharacter
  /-- A directive without a name, of an unknown name, or with wrong arguments. -/
  | malformedDirective
  /-- A directive of a kind that was given before. -/
  | repeatedDirective
  /-- A version of the language that is not understood. -/
  | unknownVersion
  /-- An anchor or an alias without a proper name. -/
  | malformedAnchor
  /-- A tag that does not follow the rules. -/
  | malformedTag
  /-- A tag handle that no directive introduced. -/
  | unknownTagHandle
  /-- A block scalar with a wrong header. -/
  | malformedBlockHeader
  /-- A tab where spaces must indent. -/
  | tabIndentation
  /-- A quoted scalar that does not end. -/
  | unclosedQuote
  /-- A backslash with a character that it does not escape. -/
  | unknownEscape
  /-- A colon inside a flow collection that is no value indicator. -/
  | unexpectedColon
  /-- Something other than the start of a document. -/
  | missingDocumentStart
  /-- A place where a node must stand and none does. -/
  | missingContent
  /-- A collection that is not continued or closed as it must be. -/
  | unclosedCollection
  /-- An alias without an anchor. -/
  | unknownAlias
  /-- Collections nested too deep. -/
  | tooDeep
  /-- Aliases that unfold to too much. -/
  | tooManyAliases
  /-- A tag that the node does not agree with. -/
  | wrongTag
  /-- A key that occurs twice in one mapping. -/
  | repeatedKey
  /-- An integer too large to be held. -/
  | integerRange
  /-- More than one document where one is expected. -/
  | severalDocuments
deriving DecidableEq, Repr, Inhabited

/-- A token. -/
inductive Token where
  /-- The end of the stream. -/
  | streamEnd
  /-- The directive that names a version. -/
  | versionDirective (major minor : Nat)
  /-- The directive that introduces a tag handle. -/
  | tagDirective (handle : String) (expansion : Tag)
  /-- The mark in front of a document. -/
  | documentStart
  /-- The mark behind a document. -/
  | documentEnd
  /-- A block list opens. -/
  | blockSequenceStart
  /-- A block mapping opens. -/
  | blockMappingStart
  /-- A block collection closes. -/
  | blockEnd
  /-- An opening bracket. -/
  | flowSequenceStart
  /-- A closing bracket. -/
  | flowSequenceEnd
  /-- An opening brace. -/
  | flowMappingStart
  /-- A closing brace. -/
  | flowMappingEnd
  /-- A dash in front of an item. -/
  | blockEntry
  /-- A comma. -/
  | flowEntry
  /-- The start of a key. -/
  | key
  /-- The start of a value. -/
  | value
  /-- A node given elsewhere. -/
  | alias (name : String)
  /-- A name for the node that follows. -/
  | anchor (name : String)
  /-- A tag for the node that follows. -/
  | tag (handle : String) (suffix : Tag)
  /-- A scalar. -/
  | scalar (text : String) (style : Style)
deriving DecidableEq, Repr, Inhabited

end ClusterAudit.Yaml
