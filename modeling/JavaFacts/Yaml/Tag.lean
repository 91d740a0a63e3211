import JavaFacts.Yaml.Cursor
import JavaFacts.Yaml.Token

/-!
# Anchors, tags and directives of YAML

An anchor or an alias is a name. A tag is written in full between angle brackets, or as a suffix after
a handle that stands for the beginning of the tag. Directives before a document give the version of
YAML and declare handles.
-/

namespace JavaFacts.Yaml

/-! ## Anchors -/

/-- Whether a character can follow a name. -/
def endsName : Option Char → Bool
  | none => true
  | some character =>
    isBlank character || isBreak character || "?:,]\x7d%@`".toList.contains character

/-- Reads the name of an anchor or an alias after its indicator. -/
def readName (context : Context) : Scan String := do
  let start ← here
  skip
  let name ← readWhile isNameCharacter
  if name.isEmpty || !endsName (← peek) then fail context start .noName
  return name

/-! ## Tags -/

/-- Whether a character can stand in a tag; `full` tells whether the tag is written in full. -/
def isTagCharacter (full : Bool) (character : Char) : Bool :=
  isNameCharacter character || ";/?:@&=+$.%!~*'()".toList.contains character ||
    (full && ",[]".toList.contains character)

/-- Reads an escaped octet. -/
def readOctet (context : Context) (start : Mark) : Scan UInt8 := do
  need 3
  match ← peek, (← peekAt 1).bind hexadecimal?, (← peekAt 2).bind hexadecimal? with
  | some '%', some high, some low =>
    return (high * 16 + low).toUInt8
  | _, _, _ => fail context start .noOctet

/-- The number of octets of a character that begins with an octet. -/
def octetCount? (first : UInt8) : Option Nat :=
  if first < 0x80 then some 1
  else if first < 0xC0 then none
  else if first < 0xE0 then some 2
  else if first < 0xF0 then some 3
  else if first < 0xF8 then some 4
  else none

/-- Reads further octets of a character. -/
def readFurtherOctets (context : Context) (start : Mark) : (count : Nat) → Scan (List UInt8)
  | 0 => return []
  | count + 1 => do
    let octet ← readOctet context start
    if octet < 0x80 || 0xBF < octet then fail context start .badTrailingOctet
    modify (·.skipMany 3)
    return octet :: (← readFurtherOctets context start count)

/-- Reads a character that is written as escaped octets. -/
def readOctets (context : Context) (start : Mark) : Scan (List UInt8) := do
  let first ← readOctet context start
  match octetCount? first with
  | none => fail context start .badLeadingOctet
  | some count =>
    modify (·.skipMany 3)
    return first :: (← readFurtherOctets context start (count - 1))

/-- Reads the octets of a tag. -/
def readTagOctets (full : Bool) (context : Context) (start : Mark) :
    (fuel : Nat) → Scan (List UInt8)
  | 0 => return []
  | fuel + 1 => do
    need 1
    match ← peek with
    | some character =>
      if !isTagCharacter full character then return []
      else
        let octets ←
          if character == '%' then readOctets context start
          else do
            skip
            pure [character.toUInt8]
        return octets ++ (← readTagOctets full context start fuel)
    | none => return []

/-- Reads the rest of a tag after a handle that belongs to it but for its exclamation mark. -/
def readTagUri (full directive : Bool) (handle : String) (start : Mark) : Scan Tag := do
  let context := if directive then Context.tagDirectiveUri else Context.tagUri
  let octets ← readTagOctets full context start (← rounds)
  if octets.isEmpty && handle.isEmpty then fail context start .noTagUri
  return .ofOctets ((handle.drop 1).toString.toUTF8.data.toList ++ octets)

/-- Reads a handle: an exclamation mark, a name and another exclamation mark, or less of it. -/
def readTagHandle (directive : Bool) (start : Mark) : Scan String := do
  need 1
  if (← peek) != some '!' then
    fail (if directive then .tagDirectiveHandle else .tag) start .noExclamation
  skip
  let name ← readWhile isNameCharacter
  if (← peek) == some '!' then
    skip
    return "!" ++ name ++ "!"
  else if directive && !name.isEmpty then fail .tagDirectiveHandleEnd start .noExclamation
  else return "!" ++ name

/-- Reads a tag: its handle and its suffix. A lone exclamation mark is a suffix without a handle. -/
def readTag (flow : Bool) : Scan (String × Tag) := do
  let start ← here
  need 2
  let parts ←
    if (← peekAt 1) == some '<' then do
      modify (·.skipMany 2)
      let suffix ← readTagUri true false "" start
      if (← peek) != some '>' then fail .tag start .noTagEnd
      skip
      pure ("", suffix)
    else do
      let handle ← readTagHandle false start
      if 1 < handle.length && handle.endsWith "!" then
        pure (handle, ← readTagUri false false "" start)
      else
        let suffix ← readTagUri false false handle start
        pure (if suffix.isEmpty then ("", .exclamation) else ("!", suffix))
  need 1
  let next ← peek
  if (flow && next == some ',') || endsWord next then return parts
  else fail .tag start .noBlankOrLineEnd

/-! ## Directives -/

/-- Reads a part of a version. -/
def readVersionNumber (start : Mark) : Scan Nat := do
  need 1
  let digits := (← get).rest.takeWhile Char.isDigit
  if 9 < digits.length then
    modify (·.skipMany 9)
    fail .versionDirective start .longVersion
  else if digits.isEmpty then fail .versionDirective start .noVersion
  else
    modify (·.skipMany digits.length)
    need 1
    return digits.foldl (fun number digit => number * 10 + (digit.toNat - '0'.toNat)) 0

/-- Reads the version of a directive. -/
def readVersion (start : Mark) : Scan TokenKind := do
  skipBlanks
  let major ← readVersionNumber start
  if (← peek) != some '.' then fail .versionDirective start .noVersionPoint
  skip
  let minor ← readVersionNumber start
  return .versionDirective major minor

/-- Reads the handle and the beginning of tags of a directive. -/
def readHandleDeclaration (start : Mark) : Scan TokenKind := do
  skipBlanks
  let handle ← readTagHandle true start
  need 1
  if !(← peek).any isBlank then fail .tagDirective start .noBlank
  skipBlanks
  let expansion ← readTagUri true true "" start
  if !endsWord (← peek) then fail .tagDirective start .noBlankOrLineEnd
  return .tagDirective handle expansion

/-- Reads a directive: what it says, and where it ends. -/
def readDirective : Scan (TokenKind × Mark) := do
  let start ← here
  skip
  let name ← readWhile isNameCharacter
  if name.isEmpty then fail .directive start .noDirectiveName
  if !endsWord (← peek) then fail .directive start .badDirectiveName
  let kind ←
    if name == "YAML" then readVersion start
    else if name == "TAG" then readHandleDeclaration start
    else fail .directive start .unknownDirective
  let stop ← here
  skipRestOfLine .directive start
  return (kind, stop)

end JavaFacts.Yaml
