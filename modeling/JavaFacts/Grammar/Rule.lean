/-!
# Grammar rules

A rule says how the parts of a construct follow one another. Beside sequence, choice and repetition
it carries what shapes the tree and settles ambiguities: field names, renamed kinds, precedence
levels with an associativity, and dynamic weights that choose between complete readings.
-/

namespace JavaFacts.Grammar

/-- How operators of one level group when they follow one another. -/
inductive Associativity where
  | left
  | right
deriving BEq, DecidableEq, Hashable, Repr, Inhabited

namespace Associativity

/-- The place of an associativity, or of its absence, in the order of items. -/
def rank : Option Associativity → Nat
  | none => 0
  | some left => 1
  | some right => 2

end Associativity

/-- The right-hand side of a grammar rule. -/
inductive Rule where
  /-- Stands for no text. -/
  | nothing
  /-- A token, by its name. -/
  | token (name : String)
  /-- A construct with a rule of its own. -/
  | ref (name : String)
  /-- The first rule followed by the second. -/
  | sequence (first second : Rule)
  /-- Either of two rules. -/
  | choice (left right : Rule)
  /-- The rule one or more times. -/
  | many1 (body : Rule)
  /-- Names the field of the parent that the parts of the body belong to. -/
  | field (name : String) (body : Rule)
  /-- Shows the parts of the body under another kind. -/
  | renamed (kind : String) (body : Rule)
  /-- Gives every part of the body a precedence and an associativity. -/
  | level (precedence : Int) (associativity : Option Associativity) (body : Rule)
  /-- Adds a weight to every reading that uses the body. -/
  | dynamic (weight : Int) (body : Rule)
deriving BEq, Hashable, Inhabited

namespace Rule

instance : Coe String Rule := ⟨Rule.token⟩

/-- The rules one after the other. -/
def inOrder : List Rule → Rule
  | [] => nothing
  | [single] => single
  | first :: rest => sequence first (inOrder rest)

/-- One of the rules. -/
def oneOf : List Rule → Rule
  | [] => nothing
  | [single] => single
  | first :: rest => choice first (oneOf rest)

/-- The rule or no text. -/
def optional (body : Rule) : Rule := choice body nothing

/-- The rule any number of times. -/
def many (body : Rule) : Rule := optional (many1 body)

/-- The rule one or more times, with a separator between any two. -/
def separated1 (separator body : Rule) : Rule :=
  sequence body (many (sequence separator body))

/-- The rule one or more times, with commas between. -/
def commas1 (body : Rule) : Rule := separated1 (token ",") body

/-- The rule any number of times, with commas between. -/
def commas (body : Rule) : Rule := optional (commas1 body)

/-- Groups to the left at a precedence. -/
def leftLevel (precedence : Int) (body : Rule) : Rule := level precedence (some .left) body

/-- Groups to the right at a precedence. -/
def rightLevel (precedence : Int) (body : Rule) : Rule := level precedence (some .right) body

end Rule

end JavaFacts.Grammar
