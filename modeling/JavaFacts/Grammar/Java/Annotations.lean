import JavaFacts.Grammar.Basic
import JavaFacts.Grammar.Java.Levels

/-!
# Annotations

Annotations and the values of their elements.
-/

namespace JavaFacts.Grammar.Java

open Rule Construct

/-- Annotations and their arguments. -/
def annotations : List Construct := [
  part "_annotation" (oneOf [ref "marker_annotation", ref "annotation"]),
  node "marker_annotation" (inOrder ["@", field "name" (ref "_name")]),
  node "annotation" <|
    inOrder [
      "@", field "name" (ref "_name"), field "arguments" (ref "annotation_argument_list")],
  node "annotation_argument_list" <|
    inOrder ["(", oneOf [ref "_element_value", commas (ref "element_value_pair")], ")"],
  node "element_value_pair" <|
    inOrder [
      field "key" (oneOf ["identifier", ref "_reserved_identifier"]), "=",
      field "value" (ref "_element_value")],
  part "_element_value" <|
    level Level.elementValue none (oneOf [
      ref "expression", ref "element_value_array_initializer", ref "_annotation"]),
  node "element_value_array_initializer" <|
    inOrder ["\x7b", commas (ref "_element_value"), optional ",", "\x7d"]]

end JavaFacts.Grammar.Java
