import JavaFacts.Yaml.Fault

/-!
# Going through a YAML text

The cursor holds what is left of the text and its place. Lines end with a line feed, a carriage
return, both of them, or one of three further line separators; a line end is read as a line feed unless
it is one of the last two of these. The end of the text counts as the end of a line.

A text is taken in by chunks. A character that cannot stand in a text spoils its whole chunk, and this
is noticed as soon as a character of that chunk has to be known, be it only to look ahead.
-/

namespace JavaFacts.Yaml

/-! ## Characters -/

/-- Whether a character can stand in a text. -/
def isAllowed (character : Char) : Bool :=
  let code := character.toNat
  code == 0x09 || code == 0x0A || code == 0x0D || (0x20 ≤ code && code ≤ 0x7E) || code == 0x85 ||
    (0xA0 ≤ code && code ≤ 0xFFFD) || 0x10000 ≤ code

/-- Whether a character ends a line. -/
def isBreak (character : Char) : Bool :=
  character == '\n' || character == '\r' || character == '\u0085' || character == '\u2028' ||
    character == '\u2029'

/-- Whether a character is a blank within a line. -/
def isBlank (character : Char) : Bool := character == ' ' || character == '\t'

/-- Whether a line ends before this character, or the text does. -/
def endsLine : Option Char → Bool
  | none => true
  | some character => isBreak character

/-- Whether a word ends before this character. -/
def endsWord : Option Char → Bool
  | none => true
  | some character => isBlank character || isBreak character

/-- Whether a character can stand in a name. -/
def isNameCharacter (character : Char) : Bool :=
  character.isAlphanum || character == '_' || character == '-'

/-- The value of a hexadecimal digit. -/
def hexadecimal? (character : Char) : Option Nat :=
  if character.isDigit then some (character.toNat - '0'.toNat)
  else if 'a' ≤ character && character ≤ 'f' then some (character.toNat - 'a'.toNat + 10)
  else if 'A' ≤ character && character ≤ 'F' then some (character.toNat - 'A'.toNat + 10)
  else none

/-! ## Chunks -/

/-- The number of bytes in a chunk, which holds as many whole characters as fit. -/
def chunkSize : Nat := 16384

/-- How many characters, and how many bytes, are before a place. -/
structure Offset where
  characters : Nat
  bytes : Nat
deriving DecidableEq, Repr, Inhabited

/-- The place after a character. -/
def Offset.after (offset : Offset) (character : Char) : Offset :=
  ⟨offset.characters + 1, offset.bytes + character.utf8Size⟩

/-- The first character from a place on that cannot stand in a text: where its chunk begins, and where
the character itself is. -/
def forbidden? : (chunk place : Offset) → List Char → Option (Offset × Offset)
  | _, _, [] => none
  | chunk, place, character :: rest =>
    let next := place.after character
    let chunk := if chunk.bytes + chunkSize < next.bytes then place else chunk
    if isAllowed character then forbidden? chunk next rest else some (chunk, place)

/-! ## The cursor -/

/-- What is left of a text, and its place. -/
structure Cursor where
  /-- The characters up to the end of the text, or up to a chunk that is spoilt. -/
  rest : List Char
  mark : Mark
  /-- The number of characters of the whole text. -/
  size : Nat
  /-- What spoils the chunk after the characters, if that is why they end. -/
  barrier : Option Fault
deriving Repr, Inhabited

namespace Cursor

/-- The beginning of a text. -/
def ofList (characters : List Char) : Cursor :=
  match forbidden? ⟨0, 0⟩ ⟨0, 0⟩ characters with
  | none => ⟨characters, .start, characters.length, none⟩
  | some (chunk, place) =>
    ⟨characters.take chunk.characters, .start, characters.length,
      some (.controlCharacter place.bytes)⟩

/-- The character so far ahead. -/
def ahead (cursor : Cursor) (count : Nat) : Option Char := cursor.rest[count]?

/-- Passes over characters within a line. -/
def skipMany (cursor : Cursor) (count : Nat) : Cursor :=
  let bytes := (cursor.rest.take count).foldl (fun bytes character => bytes + character.utf8Size) 0
  { cursor with
    rest := cursor.rest.drop count
    mark := ⟨cursor.mark.index + bytes, cursor.mark.line, cursor.mark.column + count⟩ }

/-- Passes over a character within a line. -/
def skip (cursor : Cursor) : Cursor := cursor.skipMany 1

/-- Passes over a line end, and gives what it is read as. -/
def readBreak (cursor : Cursor) : String × Cursor :=
  let next := fun (bytes : Nat) (rest : List Char) =>
    { cursor with rest, mark := ⟨cursor.mark.index + bytes, cursor.mark.line + 1, 0⟩ }
  match cursor.rest with
  | '\r' :: '\n' :: rest => ("\n", next 2 rest)
  | character :: rest =>
    if character == '\u2028' || character == '\u2029' then
      (character.toString, next character.utf8Size rest)
    else if isBreak character then ("\n", next character.utf8Size rest)
    else ("", cursor)
  | [] => ("", cursor)

/-- Whether a line that begins here is the mark of a document made of this character. -/
def atDocumentMark (cursor : Cursor) (character : Char) : Bool :=
  cursor.mark.column == 0 && cursor.ahead 0 == some character &&
    cursor.ahead 1 == some character && cursor.ahead 2 == some character &&
    endsWord (cursor.ahead 3)

/-- Whether the mark of a document begins here. -/
def atAnyDocumentMark (cursor : Cursor) : Bool :=
  cursor.atDocumentMark '-' || cursor.atDocumentMark '.'

end Cursor

/-! ## Reading -/

/-- A reader of a part of the text. -/
abbrev Scan := StateT Cursor (Except Fault)

/-- The next character. -/
def peek : Scan (Option Char) := return (← get).ahead 0

/-- The character so far ahead. -/
def peekAt (count : Nat) : Scan (Option Char) := return (← get).ahead count

/-- Where the reader is. -/
def here : Scan Mark := return (← get).mark

/-- Passes over a character within a line. -/
def skip : Scan Unit := modify Cursor.skip

/-- Makes sure that so many characters are known, as far as the text goes. -/
def need (count : Nat) : Scan Unit := do
  let cursor ← get
  if let some fault := cursor.barrier then
    if (cursor.rest.drop (count - 1)).isEmpty then throw fault

/-- Passes over a line end, and gives what it is read as. -/
def readBreak : Scan String := do
  need 2
  modifyGet Cursor.readBreak

/-- Stops with a problem here, in a context that began at a place. -/
def fail {α : Type} (context : Context) (start : Mark) (problem : Problem) : Scan α := do
  throw (.broken problem (← here) (some (context, start)))

/-- How many rounds a loop over the text can take. -/
def rounds : Scan Nat := return (← get).size + 1

/-- Reads characters within a line that have a property. The one after them has to be known. -/
def readWhile (property : Char → Bool) : Scan String := do
  let characters := (← get).rest.takeWhile property
  modify (·.skipMany characters.length)
  need 1
  return String.ofList characters

/-- Passes over blanks. -/
def skipBlanks : Scan Unit := discard (readWhile isBlank)

/-- Passes over the rest of a line, but not over its end. -/
def skipToLineEnd : Scan Unit := discard (readWhile fun character => !isBreak character)

/-- Passes over blanks and a comment up to the end of a line, and over that. -/
def skipRestOfLine (context : Context) (start : Mark) : Scan Unit := do
  skipBlanks
  if (← peek) == some '#' then skipToLineEnd
  if endsLine (← peek) then discard readBreak else fail context start .noLineEnd

/-- Line ends within a scalar: a single one is a blank, and of several the first is dropped. -/
def folded (first further : String) : String :=
  if first == "\n" then if further.isEmpty then " " else further else first ++ further

end JavaFacts.Yaml
