import JavaFacts.Grammar.Basic
import JavaFacts.Grammar.Java.Levels

/-!
# Expressions

Expressions, from assignments down to the primary ones, with the levels at which operators group.
-/

namespace JavaFacts.Grammar.Java

open Rule Construct

/-- The binary operators with the level of each. -/
def binaryOperators : List (String × Int) := [
  (">", Level.comparison), ("<", Level.comparison), (">=", Level.comparison),
  ("<=", Level.comparison), ("==", Level.equality), ("!=", Level.equality),
  ("&&", Level.conjunction), ("||", Level.disjunction), ("+", Level.sum), ("-", Level.sum),
  ("*", Level.product), ("/", Level.product), ("&", Level.bitAnd), ("|", Level.bitOr),
  ("^", Level.bitXor), ("%", Level.product), ("<<", Level.shift), (">>", Level.shift),
  (">>>", Level.shift)]

/-- The operators that assign. -/
def assignmentOperators : List String :=
  ["=", "+=", "-=", "*=", "/=", "&=", "|=", "^=", "%=", "<<=", ">>=", ">>>="]

/-- The expressions. -/
def expressions : List Construct := [
  group "expression" <|
    oneOf [
      ref "assignment_expression", ref "binary_expression", ref "instanceof_expression",
      ref "lambda_expression", ref "ternary_expression", ref "update_expression",
      ref "primary_expression", ref "unary_expression", ref "cast_expression",
      ref "switch_expression"],
  node "cast_expression" <|
    level Level.cast none (oneOf [
      inOrder ["(", field "type" (ref "_type"), ")", field "value" (ref "expression")],
      inOrder [
        "(", separated1 "&" (field "type" (ref "_type")), ")",
        field "value" (oneOf [ref "primary_expression", ref "lambda_expression"])]]),
  node "assignment_expression" <|
    rightLevel Level.assignment (inOrder [
      field "left" (oneOf [
        "identifier", ref "_reserved_identifier", ref "field_access", ref "array_access"]),
      field "operator" (oneOf (assignmentOperators.map token)),
      field "right" (ref "expression")]),
  node "binary_expression" <|
    oneOf (binaryOperators.map fun (operator, precedence) =>
      leftLevel precedence (inOrder [
        field "left" (ref "expression"), field "operator" (token operator),
        field "right" (ref "expression")])),
  node "instanceof_expression" <|
    level Level.comparison none (inOrder [
      field "left" (ref "expression"), "instanceof", optional "final",
      oneOf [
        inOrder [
          field "right" (ref "_type"),
          optional (field "name" (oneOf ["identifier", ref "_reserved_identifier"]))],
        field "pattern" (ref "record_pattern")]]),
  node "lambda_expression" <|
    inOrder [
      field "parameters" (oneOf [
        "identifier", ref "formal_parameters", ref "inferred_parameters",
        ref "_reserved_identifier"]),
      "->", field "body" (oneOf [ref "expression", ref "block"])],
  node "inferred_parameters" <|
    inOrder ["(", commas1 (oneOf ["identifier", ref "_reserved_identifier"]), ")"],
  node "ternary_expression" <|
    rightLevel Level.ternary (inOrder [
      field "condition" (ref "expression"), "?", field "consequence" (ref "expression"),
      ":", field "alternative" (ref "expression")]),
  node "unary_expression" <|
    oneOf (["+", "-", "!", "~"].map fun operator =>
      leftLevel Level.unary (inOrder [
        field "operator" (token operator), field "operand" (ref "expression")])),
  node "update_expression" <|
    leftLevel Level.unary (oneOf [
      inOrder [ref "expression", "++"], inOrder [ref "expression", "--"],
      inOrder ["++", ref "expression"], inOrder ["--", ref "expression"]]),
  group "primary_expression" <|
    oneOf [
      ref "_literal", ref "class_literal", "this", "identifier",
      ref "_reserved_identifier", ref "parenthesized_expression",
      ref "object_creation_expression", ref "field_access", ref "array_access",
      ref "method_invocation", ref "method_reference", ref "array_creation_expression",
      ref "template_expression"],
  node "array_creation_expression" <|
    rightLevel 0 (inOrder [
      "new", many (ref "_annotation"), field "type" (ref "_simple_type"),
      oneOf [
        inOrder [
          field "dimensions" (many1 (ref "dimensions_expr")),
          field "dimensions" (optional (ref "dimensions"))],
        inOrder [
          field "dimensions" (ref "dimensions"), field "value" (ref "array_initializer")]]]),
  node "dimensions_expr" (inOrder [many (ref "_annotation"), "[", ref "expression", "]"]),
  node "parenthesized_expression" (inOrder ["(", ref "expression", ")"]),
  node "class_literal" <|
    dynamic Level.classLiteral (inOrder [ref "_unannotated_type", ".", "class"]),
  node "object_creation_expression" <|
    oneOf [
      ref "_unqualified_object_creation_expression",
      inOrder [ref "primary_expression", ".", ref "_unqualified_object_creation_expression"]],
  part "_unqualified_object_creation_expression" <|
    rightLevel 0 (inOrder [
      "new",
      oneOf [
        inOrder [
          many (ref "_annotation"), field "type_arguments" (ref "type_arguments"),
          many (ref "_annotation")],
        many (ref "_annotation")],
      field "type" (ref "_simple_type"), field "arguments" (ref "argument_list"),
      optional (ref "class_body")]),
  node "field_access" <|
    inOrder [
      field "object" (oneOf [ref "primary_expression", "super"]),
      optional (inOrder [".", "super"]), ".",
      field "field" (oneOf ["identifier", ref "_reserved_identifier", "this"])],
  node "template_expression" <|
    inOrder [
      field "template_processor" (ref "primary_expression"), ".",
      field "template_argument" (ref "string_literal")],
  node "array_access" <|
    inOrder [
      field "array" (ref "primary_expression"), "[", field "index" (ref "expression"), "]"],
  node "method_invocation" <|
    inOrder [
      oneOf [
        field "name" (oneOf ["identifier", ref "_reserved_identifier"]),
        inOrder [
          field "object" (oneOf [ref "primary_expression", "super"]), ".",
          optional (inOrder ["super", "."]),
          field "type_arguments" (optional (ref "type_arguments")),
          field "name" (oneOf ["identifier", ref "_reserved_identifier"])]],
      field "arguments" (ref "argument_list")],
  node "argument_list" (inOrder ["(", commas (ref "expression"), ")"]),
  node "method_reference" <|
    inOrder [
      oneOf [ref "_type", ref "primary_expression", "super"], "::",
      optional (ref "type_arguments"), oneOf ["new", "identifier"]],
  node "type_arguments" (inOrder ["<", commas (oneOf [ref "_type", ref "wildcard"]), ">"]),
  node "wildcard" (inOrder [many (ref "_annotation"), "?", optional (ref "_wildcard_bounds")]),
  part "_wildcard_bounds" <|
    oneOf [inOrder ["extends", ref "_type"], inOrder ["super", ref "_type"]],
  node "dimensions" (rightLevel 0 (many1 (inOrder [many (ref "_annotation"), "[", "]"])))]

end JavaFacts.Grammar.Java
