import JavaFacts.Grammar.Basic
import JavaFacts.Grammar.Java.Levels

/-!
# Modules and imports

Declarations of modules with their directives, of packages and of imports.
-/

namespace JavaFacts.Grammar.Java

open Rule Construct

/-- Declarations of modules, packages and imports. -/
def modules : List Construct := [
  group "declaration" <|
    level Level.declaration none (oneOf [
      ref "module_declaration", ref "package_declaration", ref "import_declaration",
      ref "class_declaration", ref "record_declaration", ref "interface_declaration",
      ref "annotation_type_declaration", ref "enum_declaration"]),
  node "module_declaration" <|
    inOrder [
      many (ref "_annotation"), optional "open", "module", field "name" (ref "_name"),
      field "body" (ref "module_body")],
  node "module_body" (inOrder ["\x7b", many (ref "module_directive"), "\x7d"]),
  group "module_directive" <|
    oneOf [
      ref "requires_module_directive", ref "exports_module_directive",
      ref "opens_module_directive", ref "uses_module_directive",
      ref "provides_module_directive"],
  node "requires_module_directive" <|
    inOrder [
      "requires", many (field "modifiers" (ref "requires_modifier")),
      field "module" (ref "_name"), ";"],
  node "requires_modifier" (oneOf ["transitive", "static"]),
  node "exports_module_directive" <|
    inOrder [
      "exports", field "package" (ref "_name"),
      optional (inOrder [
        "to", field "modules" (ref "_name"),
        many (inOrder [",", field "modules" (ref "_name")])]),
      ";"],
  node "opens_module_directive" <|
    inOrder [
      "opens", field "package" (ref "_name"),
      optional (inOrder [
        "to", field "modules" (ref "_name"),
        many (inOrder [",", field "modules" (ref "_name")])]),
      ";"],
  node "uses_module_directive" (inOrder ["uses", field "type" (ref "_name"), ";"]),
  node "provides_module_directive" <|
    inOrder [
      "provides", field "provided" (ref "_name"), "with", ref "_name",
      many (inOrder [",", field "provider" (ref "_name")]), ";"],
  node "package_declaration" (inOrder [many (ref "_annotation"), "package", ref "_name", ";"]),
  node "import_declaration" <|
    inOrder [
      "import", optional "static", ref "_name", optional (inOrder [".", ref "asterisk"]),
      ";"],
  node "asterisk" "*"]

end JavaFacts.Grammar.Java
