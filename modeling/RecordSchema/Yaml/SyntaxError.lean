/-!
# Syntax errors

Why a text is not YAML.
-/

namespace RecordSchema.Yaml

/-- The causes for which a text is refused. -/
inductive SyntaxError where
  | tabIndentation
  | wrongIndentation
  | attachedComment
  | missingValue
  | misplacedKey
  | misplacedValue
  | misplacedEntry
  | tabAfterIndicator
  | reservedIndicator
  | deepFlow
  | badDirective
  | unknownDirective
  | unsupportedVersion
  | badDocumentEnd
  | badTag
  | badAnchor
  | badBlockHeader
  | badEscape
  | unclosedQuote
  | trailingContent
  | badPlainStart
  | undeclaredHandle
  | unknownAnchor
  | repeatedVersion
  | repeatedHandle
  | missingDocumentStart
  | missingDocumentEnd
  | missingContent
  | missingSeparator
deriving DecidableEq, Repr

/-- The wording of a cause. -/
def SyntaxError.message : SyntaxError → String
  | .tabIndentation => "a tab is used as indentation"
  | .wrongIndentation => "wrong indentation"
  | .attachedComment => "a comment must follow white space"
  | .missingValue => "a key has no value indicator"
  | .misplacedKey => "a key is not allowed here"
  | .misplacedValue => "a value is not allowed here"
  | .misplacedEntry => "a sequence entry is not allowed here"
  | .tabAfterIndicator => "a tab separates an indicator from its content"
  | .reservedIndicator => "a reserved character starts a token"
  | .deepFlow => "flow collections are nested too deeply"
  | .badDirective => "malformed directive"
  | .unknownDirective => "unknown directive"
  | .unsupportedVersion => "unsupported version"
  | .badDocumentEnd => "content follows a document end marker"
  | .badTag => "malformed tag"
  | .badAnchor => "malformed anchor or alias"
  | .badBlockHeader => "malformed block scalar header"
  | .badEscape => "unknown escape sequence"
  | .unclosedQuote => "a quoted scalar is not closed"
  | .trailingContent => "content follows a quoted scalar"
  | .badPlainStart => "a plain scalar cannot start here"
  | .undeclaredHandle => "a tag handle is not declared"
  | .unknownAnchor => "an alias names no anchor"
  | .repeatedVersion => "the version directive is repeated"
  | .repeatedHandle => "a tag handle is declared twice"
  | .missingDocumentStart => "a document start marker is missing"
  | .missingDocumentEnd => "a document end marker is missing"
  | .missingContent => "node content is missing"
  | .missingSeparator => "a separator is missing"

end RecordSchema.Yaml
