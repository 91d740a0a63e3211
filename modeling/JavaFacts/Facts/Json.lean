import JavaFacts.Facts.Basic
import JavaFacts.Json.Record
import JavaFacts.Json.Value

/-!
# Facts as JSON

Facts are written as an object with a list of declarations, a list of calls and a map from receivers to
the names of the methods that are called on them. If a receiver is repeated in the text, it keeps its
first place and its last names.
-/

namespace JavaFacts

open JavaFacts.Json

/-! ## Writing -/

/-- A list of texts. -/
def textsToJson (texts : List String) : Json.Value := .list (texts.map .text)

def Declaration.toJson (declaration : Declaration) : Json.Value :=
  .object [
    ("name", .text declaration.name),
    ("start_line", .number declaration.startLine),
    ("end_line", .number declaration.endLine),
    ("variable_names", textsToJson declaration.variableNames)]

def Call.toJson (call : Call) : Json.Value :=
  .object [
    ("name", .text call.name),
    ("start_line", .number call.startLine),
    ("argument_count", .number call.argumentCount),
    ("argument_texts", textsToJson call.argumentTexts)]

def ReceiverCalls.toJson (receivers : ReceiverCalls) : Json.Value :=
  .object (receivers.entries.toList.map fun (receiver, names) =>
    (receiver, textsToJson names.toList))

/-- Declarations as a list. -/
def declarationsToJson (declarations : Array Declaration) : Json.Value :=
  .list (declarations.toList.map Declaration.toJson)

/-- Calls as a list. -/
def callsToJson (calls : Array Call) : Json.Value := .list (calls.toList.map Call.toJson)

def Facts.toJson (facts : Facts) : Json.Value :=
  .object [
    ("declarations", declarationsToJson facts.declarations),
    ("signatures", callsToJson facts.calls),
    ("receiver_calls", facts.receivers.toJson)]

/-! ## Reading -/

/-- The value of a field that has to be there. -/
def needed {α : Type} (name : String) : Option α → Except String α
  | some value => .ok value
  | none => .error name

/-- A declaration of which some fields have been read. -/
structure DeclarationDraft where
  name : Option String := none
  startLine : Option Nat := none
  endLine : Option Nat := none
  variableNames : Option (Array String) := none

/-- How a declaration is written. -/
def declarationShape : Shape DeclarationDraft Declaration where
  name := "DeclarationRecord"
  start := {}
  fields := [
    { name := "name", optional := false, isSet := (·.name.isSome),
      read := fun draft => return { draft with name := some (← readText) } },
    { name := "start_line", optional := false, isSet := (·.startLine.isSome),
      read := fun draft => return { draft with startLine := some (← readNatural) } },
    { name := "end_line", optional := false, isSet := (·.endLine.isSome),
      read := fun draft => return { draft with endLine := some (← readNatural) } },
    { name := "variable_names", optional := false, isSet := (·.variableNames.isSome),
      read := fun draft => return { draft with variableNames := some (← readList readText) } }]
  finish := fun draft => do
    let name ← needed "name" draft.name
    let startLine ← needed "start_line" draft.startLine
    let endLine ← needed "end_line" draft.endLine
    let variableNames ← needed "variable_names" draft.variableNames
    return ⟨name, startLine, endLine, variableNames.toList⟩

/-- A call of which some fields have been read. -/
structure CallDraft where
  name : Option String := none
  startLine : Option Nat := none
  argumentCount : Option Nat := none
  argumentTexts : Option (Array String) := none

/-- How a call is written. -/
def callShape : Shape CallDraft Call where
  name := "SignatureRecord"
  start := {}
  fields := [
    { name := "name", optional := false, isSet := (·.name.isSome),
      read := fun draft => return { draft with name := some (← readText) } },
    { name := "start_line", optional := false, isSet := (·.startLine.isSome),
      read := fun draft => return { draft with startLine := some (← readNatural) } },
    { name := "argument_count", optional := false, isSet := (·.argumentCount.isSome),
      read := fun draft => return { draft with argumentCount := some (← readNatural) } },
    { name := "argument_texts", optional := false, isSet := (·.argumentTexts.isSome),
      read := fun draft => return { draft with argumentTexts := some (← readList readText) } }]
  finish := fun draft => do
    let name ← needed "name" draft.name
    let startLine ← needed "start_line" draft.startLine
    let argumentCount ← needed "argument_count" draft.argumentCount
    let argumentTexts ← needed "argument_texts" draft.argumentTexts
    return ⟨name, startLine, argumentCount, argumentTexts.toList⟩

/-- Reads declarations. -/
def readDeclarations : Reader (Array Declaration) := readList (readRecord declarationShape)

/-- Reads calls. -/
def readCalls : Reader (Array Call) := readList (readRecord callShape)

/-- Reads receivers. -/
def readReceivers : Reader ReceiverCalls :=
  readMap ReceiverCalls.empty ReceiverCalls.insert (readList readText)

/-- Facts of which some fields have been read. -/
structure FactsDraft where
  declarations : Option (Array Declaration) := none
  calls : Option (Array Call) := none
  receivers : Option ReceiverCalls := none

/-- How facts are written. -/
def factsShape : Shape FactsDraft Facts where
  name := "ExtractionResult"
  start := {}
  fields := [
    { name := "declarations", optional := false, isSet := (·.declarations.isSome),
      read := fun draft => return { draft with declarations := some (← readDeclarations) } },
    { name := "signatures", optional := false, isSet := (·.calls.isSome),
      read := fun draft => return { draft with calls := some (← readCalls) } },
    { name := "receiver_calls", optional := false, isSet := (·.receivers.isSome),
      read := fun draft => return { draft with receivers := some (← readReceivers) } }]
  finish := fun draft => do
    let declarations ← needed "declarations" draft.declarations
    let calls ← needed "signatures" draft.calls
    let receivers ← needed "receiver_calls" draft.receivers
    return ⟨declarations, calls, receivers⟩

/-- Reads facts from a JSON text. -/
def Facts.ofJson (text : String) : Except Json.Fault Facts := readAll (readRecord factsShape) text

end JavaFacts
