import JavaFacts.Facts.Basic
import JavaFacts.Source.Unit
import JavaFacts.Syntax.Name
import JavaFacts.Syntax.Walk

/-!
# Drawing facts from a tree

The extractor is a visitor whose state are the facts so far. It records every declaration and every
invocation that is offered to it, and stops at the first defect of the tree. What it has recorded by
then is kept; an invocation whose receiver is defective has been recorded as a call already.
-/

namespace JavaFacts

namespace Extraction

/-- The name of a fragment, in a method with the given name. -/
def fragmentName (method : String) : Node → Except TreeDefect String
  | .variableFragment _ name _ => .ok name
  | node => .error (.notFragment method node.kindName)

/-- The variables that a statement of a method declares. -/
def statementVariables (method : String) : Node → Except TreeDefect (List String)
  | .variableDeclaration _ fragments => fragments.mapM (fragmentName method)
  | _ => .ok []

/-- The variables that the statements of a method declare. -/
def localVariables (method : String) (body : List Node) : Except TreeDefect (List String) :=
  (body.mapM (statementVariables method)).map List.flatten

/-- Records a declaration. -/
def recordDeclaration (unit : SourceUnit) (span : Span) (name : String)
    (body : Option (List Node)) (facts : Facts) : Facts × Answer TreeDefect :=
  if Name.isPlain name then
    match localVariables name (body.getD []) with
    | .error defect => (facts, .stop defect)
    | .ok variableNames =>
      let declaration : Declaration :=
        ⟨name, unit.lineOf span.start, unit.lineOf (unit.stopOf span), variableNames⟩
      ({ facts with declarations := facts.declarations.push declaration }, .descend)
  else (facts, .stop (.declarationName span.start name))

/-- Records that a method is called on a receiver. -/
def recordReceiver (unit : SourceUnit) (name : String) (receiver : Option Node) (facts : Facts) :
    Facts × Answer TreeDefect :=
  match receiver with
  | none => (facts, .descend)
  | some receiver =>
    match unit.text receiver with
    | .error defect => (facts, .stop defect)
    | .ok text => ({ facts with receivers := facts.receivers.add text name }, .descend)

/-- Records an invocation. -/
def recordInvocation (unit : SourceUnit) (span : Span) (name : String) (receiver : Option Node)
    (arguments : List Node) (facts : Facts) : Facts × Answer TreeDefect :=
  if Name.isPlain name then
    match arguments.mapM unit.text with
    | .error defect => (facts, .stop defect)
    | .ok texts =>
      let call : Call := ⟨name, unit.lineOf span.start, texts.length, texts⟩
      recordReceiver unit name receiver { facts with calls := facts.calls.push call }
  else (facts, .stop (.invocationName span.start name))

/-- The visitor that records facts about a unit. -/
def extractor (unit : SourceUnit) : Visitor Facts TreeDefect :=
  Callbacks.visitor
    { methodDeclaration := fun node name _ body => recordDeclaration unit node.span name body
      methodInvocation := fun node name receiver arguments =>
        recordInvocation unit node.span name receiver arguments }

end Extraction

namespace SourceUnit

/-- The facts of a unit. -/
def extract (unit : SourceUnit) : Except TreeDefect Facts :=
  let result := (Extraction.extractor unit).walk unit.root .empty
  result.outcome.map fun _ => result.state

end SourceUnit

end JavaFacts
