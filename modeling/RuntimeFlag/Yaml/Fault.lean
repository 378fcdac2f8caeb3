/-!
# Faults of a YAML text
-/
namespace RuntimeFlag.Yaml

/-- Why a text is not a YAML document, or not the one that was asked for. -/
inductive Fault
  | illFormedCharacter
  | unexpectedCharacter
  | tabInIndent
  | missingColon
  | entryNotAllowed
  | keyNotAllowed
  | valueNotAllowed
  | badDirective
  | badAnchor
  | badTag
  | badEscape
  | badBlockHeader
  | endInQuotes
  | documentMarkInQuotes
  | colonInFlow
  | badVersion
  | repeatedDirective
  | missingDocumentStart
  | missingNode
  | missingSeparator
  | missingKey
  | missingEntry
  | unknownTagHandle
  | unknownAnchor
  | moreThanOneDocument
  | wrongKind (expected : String)
  | repeatedKey (name : String)
  deriving DecidableEq, Repr

def Fault.message : Fault → String
  | .illFormedCharacter => "control characters are not allowed"
  | .unexpectedCharacter => "found character that cannot start any token"
  | .tabInIndent => "found a tab character that violates indentation"
  | .missingColon => "could not find expected ':'"
  | .entryNotAllowed => "block sequence entries are not allowed in this context"
  | .keyNotAllowed => "mapping keys are not allowed in this context"
  | .valueNotAllowed => "mapping values are not allowed in this context"
  | .badDirective => "found a malformed directive"
  | .badAnchor => "did not find expected alphabetic or numeric character"
  | .badTag => "did not find expected tag"
  | .badEscape => "found an unknown escape sequence"
  | .badBlockHeader => "did not find expected comment or line break"
  | .endInQuotes => "found unexpected end of stream"
  | .documentMarkInQuotes => "found unexpected document indicator"
  | .colonInFlow => "found unexpected ':'"
  | .badVersion => "found incompatible YAML document"
  | .repeatedDirective => "found duplicate directive"
  | .missingDocumentStart => "did not find expected <document start>"
  | .missingNode => "did not find expected node content"
  | .missingSeparator => "did not find expected ',' or the end of the collection"
  | .missingKey => "did not find expected key"
  | .missingEntry => "did not find expected '-' indicator"
  | .unknownTagHandle => "found undefined tag handle"
  | .unknownAnchor => "unknown anchor"
  | .moreThanOneDocument => "found more than one document"
  | .wrongKind expected => "invalid type: expected " ++ expected
  | .repeatedKey name => "duplicate field `" ++ name ++ "`"

end RuntimeFlag.Yaml
