import JavaFacts.Json.Fault

/-!
# Reading a JSON text

A reader goes through a text from left to right. It knows what is left of the text and where that
begins, and it stops at the first fault. Loops of readers are limited by the length of the text, since
each of their rounds reads a character.
-/

namespace JavaFacts.Json

/-- The place after a character. -/
def Position.after (position : Position) (character : Char) : Position :=
  if character = '\n' then ⟨position.line + 1, 0⟩
  else ⟨position.line, position.column + character.utf8Size⟩

/-- What is left of a text, and where it begins. -/
structure Cursor where
  rest : List Char
  position : Position
deriving Repr, Inhabited

namespace Cursor

/-- The beginning of a text. -/
def ofText (text : String) : Cursor := ⟨text.toList, ⟨1, 0⟩⟩

/-- The place after the next byte, or the end of the text. -/
def nextByte (cursor : Cursor) : Position :=
  match cursor.rest with
  | [] => cursor.position
  | character :: _ =>
    if character = '\n' then ⟨cursor.position.line + 1, 0⟩
    else ⟨cursor.position.line, cursor.position.column + 1⟩

/-- Passes over the next character. -/
def advance (cursor : Cursor) : Cursor :=
  match cursor.rest with
  | [] => cursor
  | character :: rest => ⟨rest, cursor.position.after character⟩

/-- Passes over the first characters that have a property. -/
def skipWhile (property : Char → Bool) : List Char → Position → Cursor
  | [], position => ⟨[], position⟩
  | character :: rest, position =>
    if property character then skipWhile property rest (position.after character)
    else ⟨character :: rest, position⟩

/-- Whether a character is a blank between tokens. -/
def isBlank (character : Char) : Bool :=
  character = ' ' || character = '\n' || character = '\t' || character = '\r'

/-- Passes over blanks. -/
def skipBlanks (cursor : Cursor) : Cursor := skipWhile isBlank cursor.rest cursor.position

end Cursor

/-- A reader of values of a type. It is given a limit for the rounds of its loops. -/
abbrev Reader := ReaderT Nat (StateT Cursor (Except Fault))

/-- Stops with a problem at a place. -/
def failAt {α : Type} (problem : Problem) (position : Position) : Reader α :=
  throw ⟨problem, position⟩

/-- Stops with a problem here. -/
def fail {α : Type} (problem : Problem) : Reader α := do failAt problem (← get).position

/-- Stops with a problem of the next byte. -/
def failNext {α : Type} (problem : Problem) : Reader α := do failAt problem (← get).nextByte

/-- The next character. -/
def peek : Reader (Option Char) := return (← get).rest.head?

/-- Passes over the next character. -/
def advance : Reader Unit := modify Cursor.advance

/-- Passes over blanks and gives the character after them. -/
def peekPastBlanks : Reader (Option Char) := do
  modify Cursor.skipBlanks
  peek

/-- Reads the rest of a word. -/
def readWord : List Char → Reader Unit
  | [] => pure ()
  | letter :: letters => do
    match ← peek with
    | none => fail (.ended .value)
    | some character =>
      if character = letter then
        advance
        readWord letters
      else failNext .expectedWord

/-- Reads a whole text. -/
def readAll {α : Type} (reader : Reader α) (text : String) : Except Fault α := do
  let whole : Reader α := do
    let value ← reader
    match ← peekPastBlanks with
    | none => return value
    | some _ => failNext .trailingCharacters
  let (value, _) ← (whole.run (text.length + 1)).run (Cursor.ofText text)
  return value

end JavaFacts.Json
