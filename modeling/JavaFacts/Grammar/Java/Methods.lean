import JavaFacts.Grammar.Basic

/-!
# Methods

Headers, parameters and bodies of methods, local variables, and the words that are reserved only in
some places and may otherwise be names.
-/

namespace JavaFacts.Grammar.Java

open Rule Construct

/-- Methods, parameters and local variables. -/
def methods : List Construct := [
  part "_method_header" <|
    inOrder [
      optional (inOrder [
        field "type_parameters" (ref "type_parameters"), many (ref "_annotation")]),
      field "type" (ref "_unannotated_type"), ref "_method_declarator",
      optional (ref "throws")],
  part "_method_declarator" <|
    inOrder [
      field "name" (oneOf ["identifier", ref "_reserved_identifier"]),
      field "parameters" (ref "formal_parameters"),
      field "dimensions" (optional (ref "dimensions"))],
  node "formal_parameters" <|
    inOrder [
      "(",
      oneOf [
        ref "receiver_parameter",
        inOrder [
          optional (inOrder [ref "receiver_parameter", ","]),
          commas (oneOf [ref "formal_parameter", ref "spread_parameter"])]],
      ")"],
  node "formal_parameter" <|
    inOrder [
      optional (ref "modifiers"), field "type" (ref "_unannotated_type"),
      ref "_variable_declarator_id"],
  node "receiver_parameter" <|
    inOrder [
      many (ref "_annotation"), ref "_unannotated_type",
      many (inOrder ["identifier", "."]), "this"],
  node "spread_parameter" <|
    inOrder [
      optional (ref "modifiers"), ref "_unannotated_type", "...", many (ref "_annotation"),
      ref "variable_declarator"],
  node "throws" (inOrder ["throws", commas1 (ref "_type")]),
  node "local_variable_declaration" <|
    inOrder [
      optional (ref "modifiers"), field "type" (ref "_unannotated_type"),
      ref "_variable_declarator_list", ";"],
  node "method_declaration" <|
    inOrder [
      optional (ref "modifiers"), ref "_method_header",
      oneOf [field "body" (ref "block"), ";"]],
  node "compact_constructor_declaration" <|
    inOrder [optional (ref "modifiers"), field "name" "identifier", field "body" (ref "block")],
  part "_reserved_identifier" <|
    oneOf [
      level (-3) none (renamed "identifier" (oneOf ["open", "module", "record", "with", "sealed"])),
      renamed "identifier" "yield"]]

end JavaFacts.Grammar.Java
