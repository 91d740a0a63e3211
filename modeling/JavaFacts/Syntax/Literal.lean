/-!
# Literals

The kinds of literals that a tree tells apart, and the kinds of grammar nodes that become literals.
-/

namespace JavaFacts

/-- The kind of a literal. -/
inductive LiteralKind where
  | integer
  | float
  | boolean
  | character
  | string
  | textBlock
  | null
deriving DecidableEq, Repr, Inhabited

namespace LiteralKind

/-- The literal that a kind of grammar node stands for, if it stands for one. -/
def ofGrammarKind? : String → Option LiteralKind
  | "decimal_integer_literal" => some integer
  | "hex_integer_literal" => some integer
  | "octal_integer_literal" => some integer
  | "binary_integer_literal" => some integer
  | "decimal_floating_point_literal" => some float
  | "hex_floating_point_literal" => some float
  | "true" => some boolean
  | "false" => some boolean
  | "character_literal" => some character
  | "string_literal" => some string
  | "text_block" => some textBlock
  | "null_literal" => some null
  | _ => none

end LiteralKind

end JavaFacts
