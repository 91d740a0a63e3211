import JavaFacts.Text.Letters

/-!
# Plain names

A plain name begins with a letter, an underscore or a dollar sign, and goes on with these or with
numerals. Facts are only drawn about methods with plain names.
-/

namespace JavaFacts

namespace Name

open JavaFacts.Text

/-- Whether a plain name can begin with a character. -/
def isFirst (character : Char) : Bool :=
  letters.hasChar character || character == '_' || character == '$'

/-- Whether a plain name can go on with a character. -/
def isLater (character : Char) : Bool :=
  letters.hasChar character || numerals.hasChar character || character == '_' || character == '$'

/-- Whether a text is a plain name. -/
def isPlain (name : String) : Bool :=
  match name.toList with
  | [] => false
  | first :: rest => isFirst first && rest.all isLater

end Name

end JavaFacts
