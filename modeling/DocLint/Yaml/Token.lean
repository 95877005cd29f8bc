/-!
# YAML tokens

The tokens of a YAML text.  Where a block begins and ends is a token of its own, computed from the
indentation; a key is announced before it is read.  A list of tokens ends with the end of the
stream or with the fault that stopped the reading.
-/
namespace DocLint.Yaml

inductive ScalarStyle where
  | plain
  | singleQuoted
  | doubleQuoted
  | literal
  | folded
deriving DecidableEq, Repr

/-- Why a text is not YAML, or not YAML that a value can be read from. -/
inductive Fault where
  | unexpectedChar (c : Char)
  | badIndentation
  | tabIndentation
  | noBlankBeforeComment
  | badDirective
  | badTag
  | undeclaredHandle
  | badAnchor
  | unknownAnchor
  | unclosedQuote
  | badEscape
  | trailingContent
  | badBlockHeader
  | keyNotAllowed
  | valueNotAllowed
  | entryNotAllowed
  | noValueForKey
  | tooDeep
  | noContent
  | unclosedCollection
  | noDocumentStart
  | severalDocuments
  | duplicateKey
  | keyNotText
  | badMerge
  | tagMismatch
  | wrongShape
deriving DecidableEq, Repr

def Fault.message : Fault → String
  | .unexpectedChar c => "unexpected character " ++ String.ofList [c]
  | .badIndentation => "invalid indentation"
  | .tabIndentation => "a tab cannot indent a line"
  | .noBlankBeforeComment => "a comment must follow a blank"
  | .badDirective => "malformed directive"
  | .badTag => "malformed tag"
  | .undeclaredHandle => "the tag handle is not declared"
  | .badAnchor => "an anchor or alias has no name"
  | .unknownAnchor => "unknown anchor"
  | .unclosedQuote => "a quoted text does not end"
  | .badEscape => "unknown escape sequence"
  | .trailingContent => "unexpected content after a quoted text"
  | .badBlockHeader => "malformed header of a block text"
  | .keyNotAllowed => "a key is not allowed here"
  | .valueNotAllowed => "a mapping value is not allowed here"
  | .entryNotAllowed => "a sequence entry is not allowed here"
  | .noValueForKey => "a key has no value"
  | .tooDeep => "nested too deep"
  | .noContent => "expected a node"
  | .unclosedCollection => "a collection does not end"
  | .noDocumentStart => "expected the start of a document"
  | .severalDocuments => "more than one document"
  | .duplicateKey => "duplicate key"
  | .keyNotText => "a key is not text"
  | .badMerge => "only mappings can be merged"
  | .tagMismatch => "the value does not fit its tag"
  | .wrongShape => "the value does not have the expected shape"

inductive Token where
  | versionDirective
  | tagDirective (handle expansion : String)
  | documentStart
  | documentEnd
  | streamEnd
  | blockSequenceStart
  | blockMappingStart
  | blockEnd
  | flowSequenceStart
  | flowSequenceEnd
  | flowMappingStart
  | flowMappingEnd
  | blockEntry
  | flowEntry
  | key
  | value
  | alias (name : String)
  | anchor (name : String)
  | tag (handle suffix : String)
  | scalar (style : ScalarStyle) (text : String)
  | fault (f : Fault)
deriving DecidableEq, Repr

end DocLint.Yaml
