import JavaFacts.Text.Unprintable
import JavaFacts.Text.Utf8

/-!
# Quoted text

A quoted text stands between double quotes. A quote and a backslash inside it are escaped, line
feeds, carriage returns, tabs and the character with number zero have escapes of their own, and every
other character that cannot be printed is shown by its number. A quoted path has an escape for the
apostrophe as well, and its bytes that are no text are shown by their numbers.
-/

namespace JavaFacts.Text

namespace Quoted

/-- The number of a character in hexadecimal digits, without leading zeros. -/
def hexadecimal (number : Nat) : String := String.ofList (Nat.toDigits 16 number)

/-- A character as it is written between quotes. -/
def escape (character : Char) : String :=
  match character with
  | '\"' => "\\\""
  | '\\' => "\\\\"
  | '\n' => "\\n"
  | '\r' => "\\r"
  | '\t' => "\\t"
  | '\x00' => "\\0"
  | character =>
    if unprintable.hasChar character then
      "\\u\x7b" ++ hexadecimal character.toNat ++ "\x7d"
    else character.toString

/-- A text between quotes. -/
def encode (text : String) : String :=
  "\"" ++ String.join (text.toList.map escape) ++ "\""

/-- A character as it is written in a quoted path. -/
def escapeInPath (character : Char) : String :=
  if character = '\'' then "\\'" else escape character

/-- A byte as it is written in a quoted path if it is no text. -/
def escapeByte (byte : UInt8) : String :=
  "\\x" ++ String.ofList ((Nat.toDigits 16 byte.toNat).leftpad 2 '0' |>.map Char.toUpper)

/-- A piece of a path as it is written between quotes. -/
def escapePiece : Utf8.Piece → String
  | .text text => String.join (text.toList.map escapeInPath)
  | .broken bytes => String.join (bytes.map escapeByte)

/-- A path between quotes. -/
def encodePath (path : List UInt8) : String :=
  "\"" ++ String.join ((Utf8.pieces path).map escapePiece) ++ "\""

end Quoted

end JavaFacts.Text
