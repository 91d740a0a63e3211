import JavaFacts.Grammar.Basic

/-!
# Literals

The whole text, and the literals of the language. A string literal is made of fragments, escapes and
interpolated expressions; a text block has fragments of its own, since quotes may stand inside it.
-/

namespace JavaFacts.Grammar.Java

open Rule Construct

/-- The whole text and the literals. -/
def literals : List Construct := [
  node "program" (many (ref "_toplevel_statement")),
  part "_toplevel_statement" (oneOf [ref "statement", ref "method_declaration"]),
  group "_literal" <|
    oneOf [
      "decimal_integer_literal", "hex_integer_literal", "octal_integer_literal",
      "binary_integer_literal", "decimal_floating_point_literal",
      "hex_floating_point_literal", "true", "false", "character_literal",
      ref "string_literal", "null_literal"],
  node "string_literal" (oneOf [ref "_string_literal", ref "_multiline_string_literal"]),
  part "_string_literal" <|
    inOrder [
      "\"", many (oneOf ["string_fragment", "escape_sequence", ref "string_interpolation"]), "\""],
  part "_multiline_string_literal" <|
    inOrder [
      "\"\"\"",
      many (oneOf [
        ref "multiline_string_fragment",
        ref "_escape_sequence", ref "string_interpolation"]),
      "\"\"\""],
  node "multiline_string_fragment" (oneOf ["plain_run", "quoted_run"]),
  node "string_interpolation" (inOrder ["\\\x7b", ref "expression", "\x7d"]),
  part "_escape_sequence"
    (oneOf [level 2 none "kept_backslash", level 1 none "escape_sequence"])]

end JavaFacts.Grammar.Java
