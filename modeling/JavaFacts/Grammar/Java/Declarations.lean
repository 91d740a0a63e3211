import JavaFacts.Grammar.Basic

/-!
# Classes and their members

Declarations of classes, records, interfaces, enumerations and annotation types, with their members.
-/

namespace JavaFacts.Grammar.Java

open Rule Construct

/-- Declarations of types and of their members. -/
def declarations : List Construct := [
  node "enum_declaration" <|
    inOrder [
      optional (ref "modifiers"), "enum", field "name" "identifier",
      field "interfaces" (optional (ref "super_interfaces")),
      field "body" (ref "enum_body")],
  node "enum_body" <|
    inOrder [
      "\x7b", commas (ref "enum_constant"), optional ",",
      optional (ref "enum_body_declarations"), "\x7d"],
  node "enum_body_declarations" (inOrder [";", many (ref "_class_body_declaration")]),
  node "enum_constant" <|
    inOrder [
      optional (ref "modifiers"), field "name" "identifier",
      field "arguments" (optional (ref "argument_list")),
      field "body" (optional (ref "class_body"))],
  node "class_declaration" <|
    inOrder [
      optional (ref "modifiers"), "class", field "name" "identifier",
      optional (field "type_parameters" (ref "type_parameters")),
      optional (field "superclass" (ref "superclass")),
      optional (field "interfaces" (ref "super_interfaces")),
      optional (field "permits" (ref "permits")), field "body" (ref "class_body")],
  node "modifiers" <|
    many1 (oneOf [
      ref "_annotation", "public", "protected", "private", "abstract", "static", "final",
      "strictfp", "default", "synchronized", "native", "transient", "volatile", "sealed",
      "non-sealed"]),
  node "type_parameters" (inOrder ["<", commas1 (ref "type_parameter"), ">"]),
  node "type_parameter" <|
    inOrder [
      many (ref "_annotation"), renamed "type_identifier" "identifier",
      optional (ref "type_bound")],
  node "type_bound" (inOrder ["extends", ref "_type", many (inOrder ["&", ref "_type"])]),
  node "superclass" (inOrder ["extends", ref "_type"]),
  node "super_interfaces" (inOrder ["implements", ref "type_list"]),
  node "type_list" (inOrder [ref "_type", many (inOrder [",", ref "_type"])]),
  node "permits" (inOrder ["permits", ref "type_list"]),
  node "class_body" (inOrder ["\x7b", many (ref "_class_body_declaration"), "\x7d"]),
  (part "_class_body_declaration" (oneOf [
      ref "field_declaration", ref "record_declaration", ref "method_declaration",
      ref "compact_constructor_declaration", ref "class_declaration",
      ref "interface_declaration", ref "annotation_type_declaration",
      ref "enum_declaration", ref "block", ref "static_initializer",
      ref "constructor_declaration", ";"])).inline,
  node "static_initializer" (inOrder ["static", ref "block"]),
  node "constructor_declaration" <|
    inOrder [
      optional (ref "modifiers"), ref "_constructor_declarator", optional (ref "throws"),
      field "body" (ref "constructor_body")],
  part "_constructor_declarator" <|
    inOrder [
      field "type_parameters" (optional (ref "type_parameters")),
      field "name" "identifier", field "parameters" (ref "formal_parameters")],
  node "constructor_body" <|
    inOrder [
      "\x7b", optional (ref "explicit_constructor_invocation"), many (ref "statement"),
      "\x7d"],
  node "explicit_constructor_invocation" <|
    inOrder [
      oneOf [
        inOrder [
          field "type_arguments" (optional (ref "type_arguments")),
          field "constructor" (oneOf ["this", "super"])],
        inOrder [
          field "object" (oneOf [ref "primary_expression"]), ".",
          field "type_arguments" (optional (ref "type_arguments")),
          field "constructor" "super"]],
      field "arguments" (ref "argument_list"), ";"],
  (part "_name" (oneOf ["identifier", ref "_reserved_identifier", ref "scoped_identifier"])).inline,
  node "scoped_identifier" <|
    inOrder [field "scope" (ref "_name"), ".", field "name" "identifier"],
  node "field_declaration" <|
    inOrder [
      optional (ref "modifiers"), field "type" (ref "_unannotated_type"),
      ref "_variable_declarator_list", ";"],
  node "record_declaration" <|
    inOrder [
      optional (ref "modifiers"), "record", field "name" "identifier",
      optional (field "type_parameters" (ref "type_parameters")),
      field "parameters" (ref "formal_parameters"),
      optional (field "interfaces" (ref "super_interfaces")),
      field "body" (ref "class_body")],
  node "annotation_type_declaration" <|
    inOrder [
      optional (ref "modifiers"), "@interface", field "name" "identifier",
      field "body" (ref "annotation_type_body")],
  node "annotation_type_body" <|
    inOrder [
      "\x7b",
      many (oneOf [
        ref "annotation_type_element_declaration", ref "constant_declaration",
        ref "class_declaration", ref "interface_declaration", ref "enum_declaration",
        ref "annotation_type_declaration", ";"]),
      "\x7d"],
  node "annotation_type_element_declaration" <|
    inOrder [
      optional (ref "modifiers"), field "type" (ref "_unannotated_type"),
      field "name" (oneOf ["identifier", ref "_reserved_identifier"]), "(", ")",
      field "dimensions" (optional (ref "dimensions")), optional (ref "_default_value"),
      ";"],
  part "_default_value" (inOrder ["default", field "value" (ref "_element_value")]),
  node "interface_declaration" <|
    inOrder [
      optional (ref "modifiers"), "interface", field "name" "identifier",
      field "type_parameters" (optional (ref "type_parameters")),
      optional (ref "extends_interfaces"), optional (field "permits" (ref "permits")),
      field "body" (ref "interface_body")],
  node "extends_interfaces" (inOrder ["extends", ref "type_list"]),
  node "interface_body" <|
    inOrder [
      "\x7b",
      many (oneOf [
        ref "constant_declaration", ref "enum_declaration", ref "method_declaration",
        ref "class_declaration", ref "interface_declaration", ref "record_declaration",
        ref "annotation_type_declaration", ";"]),
      "\x7d"],
  node "constant_declaration" <|
    inOrder [
      optional (ref "modifiers"), field "type" (ref "_unannotated_type"),
      ref "_variable_declarator_list", ";"],
  part "_variable_declarator_list" (commas1 (field "declarator" (ref "variable_declarator"))),
  node "variable_declarator" <|
    inOrder [
      ref "_variable_declarator_id",
      optional (inOrder ["=", field "value" (ref "_variable_initializer")])],
  part "_variable_declarator_id" <|
    inOrder [
      field "name" (oneOf ["identifier", ref "_reserved_identifier", "underscore_pattern"]),
      field "dimensions" (optional (ref "dimensions"))],
  (part "_variable_initializer" (oneOf [ref "expression", ref "array_initializer"])).inline,
  node "array_initializer" <|
    inOrder ["\x7b", commas (ref "_variable_initializer"), optional ",", "\x7d"]]

end JavaFacts.Grammar.Java
