import JavaFacts.Concrete.Tree
import JavaFacts.Source.Fault
import JavaFacts.Source.LineTable
import JavaFacts.Syntax.Stack
import JavaFacts.Text.Blank

/-!
# Finding errors

A tree with an error is searched for the first error or missing node, in the order of the text. The
search only goes into nodes that are marked as having an error, and keeps an explicit stack. The
fault names the token that is missing, or quotes the beginning of the text that could not be parsed.
-/

namespace JavaFacts

open JavaFacts.Text

namespace Diagnosis

/-- The most characters of the text that are quoted. -/
def excerptLimit : Nat := 32

/-- The first line of a text, without the characters that end it. -/
def firstLine (text : List Char) : List Char :=
  let line := text.takeWhile (· != '\n')
  if line.length < text.length && line.getLast? = some '\r' then line.dropLast else line

/-- The beginning of a text as it is quoted. -/
def excerpt (text : String) : String :=
  let line := firstLine text.toList
  if excerptLimit < line.length then String.ofList (line.take excerptLimit) ++ "..."
  else String.ofList line

/-- The text of a range, or the empty text if the range does not lie in the source. -/
def textOf (source : String) (start stop : Nat) : String :=
  match source.pos? ⟨start⟩, source.pos? ⟨stop⟩ with
  | some start, some stop => source.extract start stop
  | _, _ => ""

/-- What is wrong at an error or missing node. -/
def describe (source : String) (tree : ConcreteTree) : SyntaxFault :=
  let line := (LineTable.ofText source).lineOf tree.label.start
  if tree.label.isMissing then ⟨line, .missing tree.kind⟩
  else
    let text := trimBlanks (textOf source tree.label.start tree.label.stop)
    if text.isEmpty then ⟨line, .endOfInput⟩ else ⟨line, .unexpected (excerpt text)⟩

/-- The first error or missing node on and below a stack. -/
def findFault : List ConcreteTree → Option ConcreteTree
  | [] => none
  | tree :: stack =>
    if tree.label.isError || tree.label.isMissing then some tree
    else findFault (tree.children.filter (·.label.hasError) ++ stack)
termination_by stack => sizeOf stack
decreasing_by
  have append := sizeOf_append (tree.children.filter (·.label.hasError)) stack
  have filtered := sizeOf_filter_le (·.label.hasError) tree.children
  have smaller : sizeOf tree.children < sizeOf tree := by
    cases tree with
    | node label children =>
      simp only [ConcreteTree.children, ConcreteTree.node.sizeOf_spec]; omega
  simp only [List.cons.sizeOf_spec]; omega

/-- The first fault of a tree of a source, if it has an error. -/
def firstFault (source : String) (root : ConcreteTree) : Option SyntaxFault :=
  if root.label.hasError then
    match findFault [root] with
    | some tree => some (describe source tree)
    | none => some ⟨1, .unknown⟩
  else none

end Diagnosis

end JavaFacts
