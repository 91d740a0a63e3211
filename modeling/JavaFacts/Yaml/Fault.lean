/-!
# What can go wrong in a YAML text

A text can break a rule of YAML. The fault has a problem at a place, and often the context in which
it was met, which has a place of its own.
-/

namespace JavaFacts.Yaml

/-- A place in a text: how many bytes, lines and characters of its line are before it. -/
structure Mark where
  index : Nat
  line : Nat
  column : Nat
deriving DecidableEq, Repr, Inhabited

namespace Mark

/-- The beginning of a text. -/
def start : Mark := ⟨0, 0, 0⟩

/-- Whether the place begins the first line. -/
def isOrigin (mark : Mark) : Bool := mark.line == 0 && mark.column == 0

/-- Whether two places are the same character of the same line. -/
def sameAs (left right : Mark) : Bool := left.line == right.line && left.column == right.column

/-- The place in words, where lines and columns count from one. -/
def describe (mark : Mark) : String :=
  "line " ++ toString (mark.line + 1) ++ " column " ++ toString (mark.column + 1)

end Mark

/-- What was being read. -/
inductive Context where
  | nextToken
  | simpleKey
  | directive
  | versionDirective
  | tagDirective
  | tagDirectiveHandle
  | tagDirectiveHandleEnd
  | tagDirectiveUri
  | tagUri
  | tag
  | anchor
  | reference
  | blockScalar
  | quotedScalar
  | escape
  | plainScalar
  | node
  | blockNode
  | flowNode
  | blockCollection
  | blockMapping
  | flowSequence
  | flowMapping
deriving DecidableEq, Repr, Inhabited

def Context.describe : Context → String
  | nextToken => "while scanning for the next token"
  | simpleKey => "while scanning a simple key"
  | directive => "while scanning a directive"
  | versionDirective => "while scanning a %YAML directive"
  | tagDirective => "while scanning a %TAG directive"
  | tagDirectiveHandle => "while scanning a tag directive"
  | tagDirectiveHandleEnd => "while parsing a tag directive"
  | tagDirectiveUri => "while parsing a %TAG directive"
  | tagUri => "while parsing a tag"
  | tag => "while scanning a tag"
  | anchor => "while scanning an anchor"
  | reference => "while scanning an alias"
  | blockScalar => "while scanning a block scalar"
  | quotedScalar => "while scanning a quoted scalar"
  | escape => "while parsing a quoted scalar"
  | plainScalar => "while scanning a plain scalar"
  | node => "while parsing a node"
  | blockNode => "while parsing a block node"
  | flowNode => "while parsing a flow node"
  | blockCollection => "while parsing a block collection"
  | blockMapping => "while parsing a block mapping"
  | flowSequence => "while parsing a flow sequence"
  | flowMapping => "while parsing a flow mapping"

/-- What is wrong at a place. -/
inductive Problem where
  | noToken
  | noColon
  | entryNotAllowed
  | keyNotAllowed
  | valueNotAllowed
  | noDirectiveName
  | badDirectiveName
  | unknownDirective
  | noLineEnd
  | noVersion
  | noVersionPoint
  | longVersion
  | noExclamation
  | noBlank
  | noBlankOrLineEnd
  | noTagEnd
  | noTagUri
  | noOctet
  | badLeadingOctet
  | badTrailingOctet
  | noName
  | zeroIndentation
  | tabInIndentation
  | tabAgainstIndentation
  | documentInScalar
  | endInScalar
  | unknownEscape
  | noHexadecimal
  | noCharacter
  | unexpectedColon
  | noDocumentStart
  | duplicateVersion
  | incompatibleVersion
  | duplicateTagHandle
  | undefinedTagHandle
  | noNode
  | noEntry
  | noKey
  | noCommaOrSequenceEnd
  | noCommaOrMappingEnd
deriving DecidableEq, Repr, Inhabited

def Problem.describe : Problem → String
  | noToken => "found character that cannot start any token"
  | noColon => "could not find expected ':'"
  | entryNotAllowed => "block sequence entries are not allowed in this context"
  | keyNotAllowed => "mapping keys are not allowed in this context"
  | valueNotAllowed => "mapping values are not allowed in this context"
  | noDirectiveName => "could not find expected directive name"
  | badDirectiveName => "found unexpected non-alphabetical character"
  | unknownDirective => "found unknown directive name"
  | noLineEnd => "did not find expected comment or line break"
  | noVersion => "did not find expected version number"
  | noVersionPoint => "did not find expected digit or '.' character"
  | longVersion => "found extremely long version number"
  | noExclamation => "did not find expected '!'"
  | noBlank => "did not find expected whitespace"
  | noBlankOrLineEnd => "did not find expected whitespace or line break"
  | noTagEnd => "did not find the expected '>'"
  | noTagUri => "did not find expected tag URI"
  | noOctet => "did not find URI escaped octet"
  | badLeadingOctet => "found an incorrect leading UTF-8 octet"
  | badTrailingOctet => "found an incorrect trailing UTF-8 octet"
  | noName => "did not find expected alphabetic or numeric character"
  | zeroIndentation => "found an indentation indicator equal to 0"
  | tabInIndentation => "found a tab character where an indentation space is expected"
  | tabAgainstIndentation => "found a tab character that violates indentation"
  | documentInScalar => "found unexpected document indicator"
  | endInScalar => "found unexpected end of stream"
  | unknownEscape => "found unknown escape character"
  | noHexadecimal => "did not find expected hexadecimal number"
  | noCharacter => "found invalid Unicode character escape code"
  | unexpectedColon => "found unexpected ':'"
  | noDocumentStart => "did not find expected <document start>"
  | duplicateVersion => "found duplicate %YAML directive"
  | incompatibleVersion => "found incompatible YAML document"
  | duplicateTagHandle => "found duplicate %TAG directive"
  | undefinedTagHandle => "found undefined tag handle"
  | noNode => "did not find expected node content"
  | noEntry => "did not find expected '-' indicator"
  | noKey => "did not find expected key"
  | noCommaOrSequenceEnd => "did not find expected ',' or ']'"
  | noCommaOrMappingEnd => "did not find expected ',' or '\x7d'"

/-- Why a text cannot be read. -/
inductive Fault where
  /-- A rule is broken at a place. -/
  | broken (problem : Problem) (place : Mark) (context : Option (Context × Mark))
  /-- A character that cannot stand in a text begins at this byte. -/
  | controlCharacter (offset : Nat)
deriving DecidableEq, Repr, Inhabited

namespace Fault

/-- The place after a description, unless it is the beginning of the text. -/
def placed (place : Mark) : String := if place.isOrigin then "" else " at " ++ place.describe

def message : Fault → String
  | broken problem place none => problem.describe ++ placed place
  | broken problem place (some (context, around)) =>
    problem.describe ++ placed place ++ ", " ++ context.describe ++
      if around.sameAs place then "" else placed around
  | controlCharacter offset =>
    "control characters are not allowed" ++
      if offset = 0 then "" else " at position " ++ toString offset

end Fault

end JavaFacts.Yaml
