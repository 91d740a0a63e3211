import JavaFacts.Concrete.Diagnosis
import JavaFacts.Concrete.Lowering
import JavaFacts.Source.Unit

/-!
# Parsing a source

A source is parsed as it stands. If it has an error it is parsed once more as the body of a class
without a name, since a text of bare methods is accepted too; the fault that is reported is always
that of the source as it stands. How a text becomes a concrete tree is a parameter here.
-/

namespace JavaFacts

open Lowering

namespace SourceUnit

/-- What is written before a source to make it the body of a class. It has no line end. -/
def implicitClassOpen : String := "class __ImplicitUnit__ \x7b "

/-- What is written after a source to make it the body of a class. -/
def implicitClassClose : String := "\n\x7d"

/-- The source as the body of a class. -/
def wrap (source : String) : String := implicitClassOpen ++ source ++ implicitClassClose

/-- The unit of a source with the given nodes. -/
def ofItems (source : String) (items : List Node) : SourceUnit :=
  .ofTree source (.compilationUnit ⟨0, source.utf8ByteSize⟩ items)

/-- The body of the only class in the tree of a wrapped source, if there is no error. -/
def implicitBody? (root : ConcreteTree) : Option ConcreteTree :=
  if root.label.hasError then none
  else
    match root.children.filter (·.label.named) with
    | [tree] => if tree.kind = "class_declaration" then tree.fieldChild? "body" else none
    | _ => none

/-- Parses a source, where `concrete` makes the concrete tree of a text. -/
def parseWith (concrete : String → ConcreteTree) (source : String) :
    Except SourceFault SourceUnit :=
  let root := concrete source
  match Diagnosis.firstFault source root with
  | none =>
    match lowerParts ⟨source.toUTF8, 0⟩ root with
    | .ok items => .ok (ofItems source items)
    | .error defect => .error (.malformed defect)
  | some fault =>
    let wrapped := wrap source
    match implicitBody? (concrete wrapped) with
    | none => .error (.syntaxFault fault)
    | some body =>
      match lowerParts ⟨wrapped.toUTF8, implicitClassOpen.utf8ByteSize⟩ body with
      | .ok items => .ok (ofItems source items)
      | .error defect => .error (.malformed defect)

end SourceUnit

end JavaFacts
