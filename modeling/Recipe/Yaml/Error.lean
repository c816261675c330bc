import Recipe.Yaml.Node

namespace Recipe.Yaml

structure Mark where
  line : Nat
  column : Nat
  deriving DecidableEq

inductive Problem
  | tabIndentation
  | commentSpace
  | gap
  | gapTab
  | keyColon
  | key
  | indentation
  | afterDocument
  | character : Char → Problem
  | depth
  | entryInFlow
  | entryPlace
  | entryTab
  | anchorIndentation
  | keyPlace
  | valuePlace
  | valueTab
  | valueLine
  | directiveName
  | directiveCharacter
  | directiveEnd
  | versionNumber
  | versionLength
  | versionPoint
  | tagMark
  | tagHandle
  | tagLead
  | tagDirectiveEnd
  | tagVerbatim
  | tagMissing
  | tagEnd
  | uriEscape
  | uriLead
  | uriTrail
  | uriCode
  | anchorName
  | blockZero
  | blockHeader
  | blockTab
  | blockIndentation
  | quotedMarker
  | quotedEnd
  | quotedIndentation
  | quotedTab
  | quotedRest
  | escape
  | escapeDigits
  | escapeCode
  | plainIndentation
  | plainDash
  | plainTab
  | documentStart
  | directivePlace
  | repeatedVersion
  | unknownHandle
  | unknownAnchor
  | content
  | blockKey
  | blockEntry
  | flowMapping
  | flowSequence
  | repeatedKey : Node → Problem
  | noToken
  deriving DecidableEq

def Problem.message : Problem → String
  | .tabIndentation => "tabs disallowed within this context (block indentation)"
  | .commentSpace => "comments must be separated from other tokens by whitespace"
  | .gap => "expected whitespace"
  | .gapTab => "tabs disallowed in this context"
  | .keyColon => "simple key expect ':'"
  | .key => "simple key expected"
  | .indentation => "invalid indentation"
  | .afterDocument => "invalid content after document end marker"
  | .character c => s!"unexpected character: `{c}'"
  | .depth => "recursion limit exceeded"
  | .entryInFlow => "\"-\" is only valid inside a block"
  | .entryPlace => "block sequence entries are not allowed in this context"
  | .entryTab => "'-' must be followed by a valid YAML whitespace"
  | .anchorIndentation => "invalid indentation for anchor"
  | .keyPlace => "mapping keys are not allowed in this context"
  | .valuePlace => "mapping values are not allowed in this context"
  | .valueTab => "':' must be followed by a valid YAML whitespace"
  | .valueLine => "illegal placement of ':' indicator"
  | .directiveName => "while scanning a directive, could not find expected directive name"
  | .directiveCharacter => "while scanning a directive, found unexpected non-alphabetical character"
  | .directiveEnd => "while scanning a directive, did not find expected comment or line break"
  | .versionNumber => "while scanning a YAML directive, did not find expected version number"
  | .versionLength => "while scanning a YAML directive, found extremely long version number"
  | .versionPoint =>
    "while scanning a YAML directive, did not find expected digit or '.' character"
  | .tagMark => "while scanning a tag, did not find expected '!'"
  | .tagHandle => "while parsing a tag directive, did not find expected '!'"
  | .tagLead => "invalid global tag character"
  | .tagDirectiveEnd => "while scanning TAG, did not find expected whitespace or line break"
  | .tagVerbatim => "while scanning a verbatim tag, did not find the expected '>'"
  | .tagMissing => "while parsing a tag, did not find expected tag URI"
  | .tagEnd => "while scanning a tag, did not find expected whitespace or line break"
  | .uriEscape => "while parsing a tag, did not find URI escaped octet"
  | .uriLead => "while parsing a tag, found an incorrect leading UTF-8 octet"
  | .uriTrail => "while parsing a tag, found an incorrect trailing UTF-8 octet"
  | .uriCode => "while parsing a tag, found an invalid UTF-8 codepoint"
  | .anchorName =>
    "while scanning an anchor or alias, did not find expected alphabetic or numeric character"
  | .blockZero => "while scanning a block scalar, found an indentation indicator equal to 0"
  | .blockHeader =>
    "while scanning a block scalar, did not find expected comment or line break"
  | .blockTab => "a block scalar content cannot start with a tab"
  | .blockIndentation => "wrongly indented line in block scalar"
  | .quotedMarker => "while scanning a quoted scalar, found unexpected document indicator"
  | .quotedEnd => "while scanning a quoted scalar, found unexpected end of stream"
  | .quotedIndentation => "invalid indentation in quoted scalar"
  | .quotedTab => "tab cannot be used as indentation"
  | .quotedRest => "invalid trailing content after double-quoted scalar"
  | .escape => "while parsing a quoted scalar, found unknown escape character"
  | .escapeDigits => "while parsing a quoted scalar, did not find expected hexadecimal number"
  | .escapeCode => "while parsing a quoted scalar, found invalid Unicode character escape code"
  | .plainIndentation => "invalid indentation in flow construct"
  | .plainDash => "plain scalar cannot start with '-' followed by ,[]\x7b\x7d"
  | .plainTab => "while scanning a plain scalar, found a tab"
  | .documentStart => "did not find expected <document start>"
  | .directivePlace => "missing explicit document end marker before directive"
  | .repeatedVersion => "duplicate version directive"
  | .unknownHandle => "the handle wasn't declared"
  | .unknownAnchor => "while parsing node, found unknown anchor"
  | .content => "while parsing a node, did not find expected node content"
  | .blockKey => "while parsing a block mapping, did not find expected key"
  | .blockEntry => "while parsing a block collection, did not find expected '-' indicator"
  | .flowMapping => "while parsing a flow mapping, did not find expected ',' or '\x7d'"
  | .flowSequence => "while parsing a flow sequence, expected ',' or ']'"
  | .repeatedKey n => s!"{n.text}: duplicated key in mapping"
  | .noToken => "unexpected eof"

structure Error where
  problem : Problem
  mark : Mark
  deriving DecidableEq

def Error.message (e : Error) : String :=
  s!"Parse error at line {e.mark.line}, column {e.mark.column + 1}: {e.problem.message}"

end Recipe.Yaml
