import JavaFacts.Grammar.Basic

/-!
# Statements

Statements and their clauses.
-/

namespace JavaFacts.Grammar.Java

open Rule Construct

/-- The statements. -/
def statements : List Construct := [
  group "statement" <|
    oneOf [
      ref "declaration", ref "expression_statement", ref "labeled_statement",
      ref "if_statement", ref "while_statement", ref "for_statement",
      ref "enhanced_for_statement", ref "block", ";", ref "assert_statement",
      ref "do_statement", ref "break_statement", ref "continue_statement",
      ref "return_statement", ref "yield_statement", ref "switch_expression",
      ref "synchronized_statement", ref "local_variable_declaration",
      ref "throw_statement", ref "try_statement", ref "try_with_resources_statement"],
  node "block" (inOrder ["\x7b", many (ref "statement"), "\x7d"]),
  node "expression_statement" (inOrder [ref "expression", ";"]),
  node "labeled_statement" (inOrder ["identifier", ":", ref "statement"]),
  node "assert_statement" <|
    oneOf [
      inOrder ["assert", ref "expression", ";"],
      inOrder ["assert", ref "expression", ":", ref "expression", ";"]],
  node "do_statement" <|
    inOrder [
      "do", field "body" (ref "statement"), "while",
      field "condition" (ref "parenthesized_expression"), ";"],
  node "break_statement" (inOrder ["break", optional "identifier", ";"]),
  node "continue_statement" (inOrder ["continue", optional "identifier", ";"]),
  node "return_statement" (inOrder ["return", optional (ref "expression"), ";"]),
  node "yield_statement" (inOrder ["yield", ref "expression", ";"]),
  node "synchronized_statement" <|
    inOrder ["synchronized", ref "parenthesized_expression", field "body" (ref "block")],
  node "throw_statement" (inOrder ["throw", ref "expression", ";"]),
  node "try_statement" <|
    inOrder [
      "try", field "body" (ref "block"),
      oneOf [
        many1 (ref "catch_clause"),
        inOrder [many (ref "catch_clause"), ref "finally_clause"]]],
  node "catch_clause" <|
    inOrder ["catch", "(", ref "catch_formal_parameter", ")", field "body" (ref "block")],
  node "catch_formal_parameter" <|
    inOrder [optional (ref "modifiers"), ref "catch_type", ref "_variable_declarator_id"],
  node "catch_type" (separated1 "|" (ref "_unannotated_type")),
  node "finally_clause" (inOrder ["finally", ref "block"]),
  node "try_with_resources_statement" <|
    inOrder [
      "try", field "resources" (ref "resource_specification"), field "body" (ref "block"),
      many (ref "catch_clause"), optional (ref "finally_clause")],
  node "resource_specification" <|
    inOrder ["(", separated1 ";" (ref "resource"), optional ";", ")"],
  node "resource" <|
    oneOf [
      inOrder [
        optional (ref "modifiers"), field "type" (ref "_unannotated_type"),
        ref "_variable_declarator_id", "=", field "value" (ref "expression")],
      "identifier", ref "field_access"],
  node "if_statement" <|
    rightLevel 0 (inOrder [
      "if", field "condition" (ref "parenthesized_expression"),
      field "consequence" (ref "statement"),
      optional (inOrder ["else", field "alternative" (ref "statement")])]),
  node "while_statement" <|
    inOrder [
      "while", field "condition" (ref "parenthesized_expression"),
      field "body" (ref "statement")],
  node "for_statement" <|
    inOrder [
      "for", "(",
      oneOf [
        field "init" (ref "local_variable_declaration"),
        inOrder [commas (field "init" (ref "expression")), ";"]],
      field "condition" (optional (ref "expression")), ";",
      commas (field "update" (ref "expression")), ")", field "body" (ref "statement")],
  node "enhanced_for_statement" <|
    inOrder [
      "for", "(", optional (ref "modifiers"), field "type" (ref "_unannotated_type"),
      ref "_variable_declarator_id", ":", field "value" (ref "expression"), ")",
      field "body" (ref "statement")]]

end JavaFacts.Grammar.Java
