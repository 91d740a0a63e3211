import JavaFacts.Text.CodePoints

/-!
# Regular expressions

The written form of a token is a regular expression over sets of characters. The type of the sets is
a parameter: a lexicon is written with sets of code points, and scanning works with the finitely many
classes that these sets tell apart.

Expressions are read one character at a time by residuals: the residual of an expression after a
character accepts what may follow that character. The constructors `either` and `before` drop
alternatives that accept nothing or are written twice, so an expression has finitely many residuals.
-/

namespace JavaFacts.Grammar

/-- A regular expression whose single characters are drawn from sets of type `σ`. -/
inductive Regex (σ : Type) where
  /-- Accepts no text. -/
  | never
  /-- Accepts the empty text. -/
  | nothing
  /-- Accepts one character of the set. -/
  | one (set : σ)
  /-- Accepts what one of the two accepts. -/
  | alternative (left right : Regex σ)
  /-- Accepts a text of the first followed by one of the second. -/
  | sequence (first second : Regex σ)
  /-- Accepts any number of texts of the body, one after the other. -/
  | star (body : Regex σ)
deriving BEq, Hashable, Inhabited

namespace Regex

variable {σ τ : Type}

/-- Replaces every set of characters. -/
def map (change : σ → τ) : Regex σ → Regex τ
  | never => never
  | nothing => nothing
  | one set => one (change set)
  | alternative left right => alternative (left.map change) (right.map change)
  | sequence first second => sequence (first.map change) (second.map change)
  | star body => star (body.map change)

/-- The sets of characters that occur in an expression, from left to right. -/
def sets : Regex σ → List σ
  | never => []
  | nothing => []
  | one set => [set]
  | alternative left right => left.sets ++ right.sets
  | sequence first second => first.sets ++ second.sets
  | star body => body.sets

/-- Accepts the texts of all the expressions, one after the other. -/
def inOrder : List (Regex σ) → Regex σ
  | [] => nothing
  | [single] => single
  | first :: rest => sequence first (inOrder rest)

/-- Accepts what one of the expressions accepts. -/
def oneOf : List (Regex σ) → Regex σ
  | [] => never
  | [single] => single
  | first :: rest => alternative first (oneOf rest)

/-- Accepts what the body accepts, or the empty text. -/
def optional (body : Regex σ) : Regex σ := alternative body nothing

/-- Accepts one or more texts of the body. -/
def plus (body : Regex σ) : Regex σ := sequence body (star body)

/-- Accepts exactly `count` texts of the body. -/
def times (count : Nat) (body : Regex σ) : Regex σ := inOrder (List.replicate count body)

/-- Accepts one or more texts of the body with a separator between any two. -/
def separated (separator body : Regex σ) : Regex σ :=
  sequence body (star (sequence separator body))

/-- Whether the expression accepts the empty text. -/
def acceptsEmpty : Regex σ → Bool
  | never => false
  | nothing => true
  | one _ => false
  | alternative left right => left.acceptsEmpty || right.acceptsEmpty
  | sequence first second => first.acceptsEmpty && second.acceptsEmpty
  | star _ => true

/-- Whether a branch stands among the alternatives of an expression. -/
def hasBranch [BEq σ] : (expression branch : Regex σ) → Bool
  | alternative left right, branch => branch == left || right.hasBranch branch
  | single, branch => branch == single

/--
The alternative of two expressions: a branch that accepts nothing, or that is there already, is
dropped.
-/
def either [BEq σ] (left right : Regex σ) : Regex σ :=
  match left with
  | never => right
  | alternative first rest => either first (either rest right)
  | single =>
    match right with
    | never => single
    | right => if right.hasBranch single then right else alternative single right

/-- The sequence of two expressions, which accepts nothing as soon as its first part does. -/
def before (first second : Regex σ) : Regex σ :=
  match first with
  | never => never
  | nothing => second
  | first => sequence first second

/-- What may follow after a character, where `matching` tells which sets hold the character. -/
def residual [BEq σ] (matching : σ → Bool) : Regex σ → Regex σ
  | never => never
  | nothing => never
  | one set => if matching set then nothing else never
  | alternative left right => either (left.residual matching) (right.residual matching)
  | sequence first second =>
    let later := before (first.residual matching) second
    if first.acceptsEmpty then either later (second.residual matching) else later
  | star body => before (body.residual matching) (star body)

/-- Whether no text at all is accepted. Residuals without accepted texts have this form. -/
def isNever : Regex σ → Bool
  | never => true
  | _ => false

end Regex

/-! ## Expressions over code points -/

open JavaFacts.Text

/-- A regular expression over sets of code points. -/
abbrev Pattern := Regex CodePoints

namespace Pattern

/-- Accepts one character of the given text. -/
def oneChar (characters : String) : Pattern := .one (CodePoints.ofText characters)

/-- Accepts one character that is not in the given text. -/
def otherChar (characters : String) : Pattern := .one (CodePoints.ofText characters).complement

/-- Accepts one character between two characters, both included. -/
def range (low high : Char) : Pattern := .one (CodePoints.interval low.toNat high.toNat)

/-- Accepts exactly the given text. -/
def text (characters : String) : Pattern :=
  .inOrder (characters.toList.map fun character => .one (CodePoints.single character))

end Pattern

end JavaFacts.Grammar
