import JavaFacts.Json.Number
import JavaFacts.Json.Text

/-!
# Values that are passed over

The value of a field that nobody asked for is passed over. It has to be well formed all the same. The
lists and objects that are open are kept on a stack.
-/

namespace JavaFacts.Json

/-- A list or an object that is open. -/
inductive Frame where
  | list
  | object
deriving DecidableEq, Repr, Inhabited

namespace Frame

/-- The bracket that closes it. -/
def closer : Frame → Char
  | list => ']'
  | object => '\x7d'

/-- What is wrong if the text ends in it. -/
def ended : Frame → Problem
  | list => .ended .list
  | object => .ended .object

/-- What is wrong if something else follows a value in it. -/
def notClosed : Frame → Problem
  | list => .expectedCommaOrListEnd
  | object => .expectedCommaOrObjectEnd

end Frame

/-- Passes over the ends of frames, and over a comma if one can stand here. Gives the frames in which
another value follows. -/
def closeFrames : (comma : Bool) → List Frame → Reader (List Frame)
  | _, [] => pure []
  | comma, frame :: outer => do
    match ← peekPastBlanks with
    | none => failNext frame.ended
    | some character =>
      if comma && character = ',' then
        advance
        return frame :: outer
      else if character = frame.closer then
        advance
        closeFrames true outer
      else if comma then failNext frame.notClosed
      else return frame :: outer

/-- Passes over a key and the colon after it. -/
def skipKey : Reader Unit := do
  match ← peekPastBlanks with
  | none => failNext (.ended .object)
  | some '\"' =>
    advance
    skipQuoted
  | some _ => failNext .keyNotText
  match ← peekPastBlanks with
  | none => failNext (.ended .object)
  | some ':' => advance
  | some _ => failNext .expectedColon

/-- Passes over a value that is neither a list nor an object, whose first character is known. -/
def skipScalar (first : Char) : Reader Unit := do
  match first with
  | 'n' =>
    advance
    readWord ['u', 'l', 'l']
  | 't' =>
    advance
    readWord ['r', 'u', 'e']
  | 'f' =>
    advance
    readWord ['a', 'l', 's', 'e']
  | '\"' =>
    advance
    skipQuoted
  | first => if first = '-' || first.isDigit then skipNumber else failNext .expectedValue

/-- Passes over a value and over all that is left of the frames around it. -/
def skipWithin : (fuel : Nat) → List Frame → Reader Unit
  | 0, _ => failNext (.ended .value)
  | fuel + 1, frames => do
    let remaining ← match ← peekPastBlanks with
      | none => failNext (.ended .value)
      | some '[' =>
        advance
        closeFrames false (.list :: frames)
      | some '\x7b' =>
        advance
        closeFrames false (.object :: frames)
      | some first =>
        skipScalar first
        closeFrames true frames
    match remaining with
    | [] => pure ()
    | .list :: _ => skipWithin fuel remaining
    | .object :: _ =>
      skipKey
      skipWithin fuel remaining

/-- Passes over a value. -/
def skipValue : Reader Unit := do skipWithin (← read) []

end JavaFacts.Json
