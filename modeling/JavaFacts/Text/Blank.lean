import JavaFacts.Text.CodePoints

/-!
# Blank characters

The code points of the Unicode property White_Space, and texts without the blank characters at their
ends.
-/

namespace JavaFacts.Text

/-- The code points with the property White_Space. -/
def blanks : CodePoints := ⟨#[
  0x9, 0xE, 0x20, 0x21, 0x85, 0x86, 0xA0, 0xA1, 0x1680, 0x1681, 0x2000, 0x200B, 0x2028, 0x202A,
  0x202F, 0x2030, 0x205F, 0x2060, 0x3000, 0x3001]⟩

/-- Whether a character is blank. -/
def isBlank (character : Char) : Bool := blanks.hasChar character

/-- A text without the blank characters at its ends. -/
def trimBlanks (text : String) : String :=
  let front := text.toList.dropWhile isBlank
  String.ofList (front.reverse.dropWhile isBlank).reverse

end JavaFacts.Text
