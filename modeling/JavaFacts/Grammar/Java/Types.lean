import JavaFacts.Grammar.Basic
import JavaFacts.Grammar.Java.Levels

/-!
# Types

Types as they are written in declarations, casts and type arguments.
-/

namespace JavaFacts.Grammar.Java

open Rule Construct

/-- The types. -/
def types : List Construct := [
  group "_type" (oneOf [ref "_unannotated_type", ref "annotated_type"]),
  group "_unannotated_type" (oneOf [ref "_simple_type", ref "array_type"]),
  (group "_simple_type" (oneOf [
      "void_type", ref "integral_type", ref "floating_point_type", "boolean_type",
      renamed "type_identifier" "identifier", ref "scoped_type_identifier",
      ref "generic_type"])).inline,
  node "annotated_type" (inOrder [many1 (ref "_annotation"), ref "_unannotated_type"]),
  node "scoped_type_identifier" <|
    inOrder [
      oneOf [
        renamed "type_identifier" "identifier", ref "scoped_type_identifier",
        ref "generic_type"],
      ".", many (ref "_annotation"), renamed "type_identifier" "identifier"],
  node "generic_type" <|
    dynamic Level.generic (inOrder [
      oneOf [renamed "type_identifier" "identifier", ref "scoped_type_identifier"],
      ref "type_arguments"]),
  node "array_type" <|
    inOrder [field "element" (ref "_unannotated_type"), field "dimensions" (ref "dimensions")],
  node "integral_type" (oneOf ["byte", "short", "int", "long", "char"]),
  node "floating_point_type" (oneOf ["float", "double"])]

end JavaFacts.Grammar.Java
