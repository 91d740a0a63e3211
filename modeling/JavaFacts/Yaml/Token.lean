import JavaFacts.Yaml.Fault

/-!
# Tokens of YAML

The tokens of a text. The beginning and the end of a block collection are tokens although no
characters stand for them: they follow from the indentation.
-/

namespace JavaFacts.Yaml

/-- A tag, or a part of one. It is made of octets, which need not be text, and none of them is zero:
where a zero is written, the tag ends. -/
structure Tag where
  octets : List UInt8
deriving DecidableEq, Repr, Inhabited

namespace Tag

/-- The tag of octets, up to the first zero. -/
def ofOctets (octets : List UInt8) : Tag := ⟨octets.takeWhile (· != 0)⟩

/-- The tag that a text is. -/
def ofText (text : String) : Tag := ofOctets text.toUTF8.data.toList

/-- Whether there is nothing in a tag. -/
def isEmpty (tag : Tag) : Bool := tag.octets.isEmpty

/-- A tag made of two parts. -/
def append (first second : Tag) : Tag := ⟨first.octets ++ second.octets⟩

/-- The tag that an exclamation mark alone is. -/
def exclamation : Tag := ofText "!"

/-- Whether a tag begins with an exclamation mark, so that it is one of the text's own. -/
def isOwn (tag : Tag) : Bool := tag.octets.head? == some '!'.toUInt8

/-- The name that a tag of the text's own gives: what is after its exclamation mark, if there is
something. It has to be text. -/
def ownName? (tag : Tag) : Option String :=
  if tag.isOwn then
    let name := if tag == exclamation then tag.octets else tag.octets.drop 1
    String.fromUTF8? ⟨name.toArray⟩
  else none

end Tag

/-- How a scalar is written. -/
inductive ScalarStyle where
  | plain
  | singleQuoted
  | doubleQuoted
  | literal
  | folded
deriving DecidableEq, Repr, Inhabited

/-- What a token is. -/
inductive TokenKind where
  | streamEnd
  | versionDirective (major minor : Nat)
  | tagDirective (handle : String) (expansion : Tag)
  | documentStart
  | documentEnd
  | blockSequenceStart
  | blockMappingStart
  | blockEnd
  | flowSequenceStart
  | flowSequenceEnd
  | flowMappingStart
  | flowMappingEnd
  | blockEntry
  | flowEntry
  | key
  | value
  /-- An alias, which stands for the node with an anchor. -/
  | reference (name : String)
  | anchor (name : String)
  | tag (handle : String) (suffix : Tag)
  | scalar (text : String) (style : ScalarStyle)
deriving DecidableEq, Repr, Inhabited

/-- A token and its place. -/
structure Token where
  kind : TokenKind
  start : Mark
  stop : Mark
deriving DecidableEq, Repr, Inhabited

end JavaFacts.Yaml
