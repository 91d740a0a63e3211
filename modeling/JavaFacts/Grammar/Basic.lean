import JavaFacts.Grammar.Regex
import JavaFacts.Grammar.Rule

/-!
# Grammars

A grammar is an ordered lexicon of tokens together with ordered rules. The order matters where the
lexicon or the rules leave a choice open: the earlier token or rule is preferred.
-/

namespace JavaFacts.Grammar

/-- How a symbol shows in the tree. -/
inductive Visibility where
  /-- A node with a kind of its own. -/
  | named
  /-- A node that stands for its literal text. -/
  | anonymous
  /-- No node: its parts appear in the parent. -/
  | hidden
  /-- No node, and made by the expansion of a repetition. -/
  | auxiliary
deriving BEq, DecidableEq, Hashable, Repr, Inhabited

namespace Visibility

/-- Whether a symbol makes a node. -/
def isVisible : Visibility → Bool
  | named => true
  | anonymous => true
  | hidden => false
  | auxiliary => false

end Visibility

/-- A token of the lexicon. -/
structure Token where
  /-- The kind of the nodes that the token makes. -/
  name : String
  visibility : Visibility
  /-- The texts of the token. -/
  pattern : Pattern
  /-- The text of a token that is always written in one way. -/
  fixedText : Option String
  /-- Whether the token must begin where the token before it ended. -/
  immediate : Bool
  /-- The precedence against other tokens at the same place. -/
  precedence : Int
deriving Inhabited

namespace Token

/-- A token that is written in one way and shows as that text. -/
def literal (text : String) : Token :=
  ⟨text, .anonymous, Pattern.text text, some text, false, 0⟩

/-- A token that is written in one way and has a kind of its own. -/
def keyword (name text : String) : Token :=
  ⟨name, .named, Pattern.text text, some text, false, 0⟩

/-- A token with a kind of its own and many texts. -/
def kind (name : String) (pattern : Pattern) : Token :=
  ⟨name, .named, pattern, none, false, 0⟩

/-- A token that makes no node. -/
def part (name : String) (pattern : Pattern) : Token :=
  ⟨name, .hidden, pattern, none, false, 0⟩

/-- Requires the token to begin where the token before it ended. -/
def immediately (token : Token) : Token := { token with immediate := true }

/-- Gives the token a precedence against other tokens. -/
def withPrecedence (token : Token) (precedence : Int) : Token :=
  { token with precedence := precedence }

/--
How specific a token is: of two tokens with the same precedence and the same text, the fixed text
wins over the pattern, and the token that may not be preceded by separators over the one that may.
-/
def specificity (token : Token) : Nat :=
  (if token.fixedText.isSome then 2 else 0) + (if token.immediate then 1 else 0)

end Token

/-- A construct of the language and its rule. -/
structure Construct where
  /-- The kind of the nodes that the construct makes. -/
  name : String
  visibility : Visibility
  /-- Whether uses of the construct are replaced by its alternatives. -/
  inlined : Bool
  /-- Whether the construct only groups other constructs under one name. -/
  grouping : Bool
  rule : Rule
deriving Inhabited

namespace Construct

/-- A construct that makes a node. -/
def node (name : String) (rule : Rule) : Construct := ⟨name, .named, false, false, rule⟩

/-- A construct whose parts appear in the parent. -/
def part (name : String) (rule : Rule) : Construct := ⟨name, .hidden, false, false, rule⟩

/-- A construct that groups others under one name and whose parts appear in the parent. -/
def group (name : String) (rule : Rule) : Construct := ⟨name, .hidden, false, true, rule⟩

/-- Marks a construct whose uses are replaced by its alternatives. -/
def inline (construct : Construct) : Construct := { construct with inlined := true }

end Construct

end JavaFacts.Grammar

namespace JavaFacts

open JavaFacts.Text

/-- An ordered lexicon with ordered rules; the first construct is the whole text. -/
structure Grammar where
  tokens : Array Grammar.Token
  constructs : Array Grammar.Construct
  /-- The characters that may stand before any token that is not immediate. -/
  separators : CodePoints
  /-- The tokens that may stand anywhere. -/
  extras : List String
  /-- The token of identifiers, of which the keywords are special cases. -/
  word : String
deriving Inhabited

end JavaFacts
