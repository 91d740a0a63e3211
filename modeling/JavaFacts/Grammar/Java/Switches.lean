import JavaFacts.Grammar.Basic

/-!
# Switches and patterns

Switches over labels and patterns, both as statements and as expressions.
-/

namespace JavaFacts.Grammar.Java

open Rule Construct

/-- Switches, their labels and patterns. -/
def switches : List Construct := [
  node "switch_expression" <|
    inOrder [
      "switch", field "condition" (ref "parenthesized_expression"),
      field "body" (ref "switch_block")],
  node "switch_block" <|
    inOrder [
      "\x7b", oneOf [many (ref "switch_block_statement_group"), many (ref "switch_rule")],
      "\x7d"],
  node "switch_block_statement_group" <|
    leftLevel 0 (inOrder [many1 (inOrder [ref "switch_label", ":"]), many (ref "statement")]),
  node "switch_rule" <|
    inOrder [
      ref "switch_label", "->",
      oneOf [ref "expression_statement", ref "throw_statement", ref "block"]],
  node "switch_label" <|
    oneOf [
      inOrder [
        "case", oneOf [ref "pattern", commas1 (ref "expression")], optional (ref "guard")],
      "default"],
  node "pattern" (oneOf [ref "type_pattern", ref "record_pattern"]),
  node "type_pattern" <|
    inOrder [ref "_unannotated_type", oneOf ["identifier", ref "_reserved_identifier"]],
  node "record_pattern" <|
    inOrder [
      oneOf ["identifier", ref "_reserved_identifier", ref "generic_type"],
      ref "record_pattern_body"],
  node "record_pattern_body" <|
    inOrder ["(", commas (oneOf [ref "record_pattern_component", ref "record_pattern"]), ")"],
  node "record_pattern_component" <|
    oneOf [
      "underscore_pattern",
      inOrder [ref "_unannotated_type", oneOf ["identifier", ref "_reserved_identifier"]]],
  node "guard" (inOrder ["when", ref "expression"])]

end JavaFacts.Grammar.Java
