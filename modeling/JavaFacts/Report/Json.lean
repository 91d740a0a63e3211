import JavaFacts.Facts.Json
import JavaFacts.Report.Basic

/-!
# Reports as JSON

A JSON report has an entry for each file. An entry holds the sections that were chosen, or the error
that kept facts from being drawn. Sections and errors that an entry does not hold are left out.
-/

namespace JavaFacts.Report

open JavaFacts.Json

/-- What a report says on a file. -/
structure Entry where
  path : String
  error : Option String := none
  declarations : Option (Array Declaration) := none
  calls : Option (Array Call) := none
  receivers : Option ReceiverCalls := none
deriving DecidableEq, Repr, Inhabited

/-- A report on files. -/
structure Document where
  version : String
  files : List Entry
deriving DecidableEq, Repr, Inhabited

/-! ## Writing -/

/-- A field that is left out if it has no value. -/
def optionalField {α : Type} (name : String) (write : α → Json.Value) :
    Option α → List (String × Json.Value)
  | some value => [(name, write value)]
  | none => []

def Entry.toJson (entry : Entry) : Json.Value :=
  .object (("path", .text entry.path) ::
    (optionalField "error" .text entry.error ++
      optionalField "declarations" declarationsToJson entry.declarations ++
      optionalField "signatures" callsToJson entry.calls ++
      optionalField "receiver_calls" ReceiverCalls.toJson entry.receivers))

def Document.toJson (document : Document) : Json.Value :=
  .object [("version", .text document.version), ("files", .list (document.files.map Entry.toJson))]

/-- The text of a document, with a line for every part. -/
def Document.pretty (document : Document) : String := document.toJson.pretty 0

/-- The version of the form of reports. -/
def version : String := "1"

/-- The value if a section is among those that were chosen. -/
def Section.among {α : Type} (wanted : Section) (chosen : List Section) (value : α) : Option α :=
  if chosen.contains wanted then some value else none

/-- What a document says on a file. -/
def FileReport.entry (report : FileReport) (chosen : List Section) : Entry :=
  match report.outcome with
  | .ok facts =>
    { path := report.path
      declarations := Section.declarations.among chosen facts.declarations
      calls := Section.signatures.among chosen facts.calls
      receivers := Section.receivers.among chosen facts.receivers }
  | .error fault => { path := report.path, error := some fault.message }

/-- The document on files. -/
def document (chosen : List Section) (reports : List FileReport) : Document :=
  ⟨version, reports.map (·.entry chosen)⟩

/-- The JSON report on files. -/
def json (chosen : List Section) (reports : List FileReport) : String :=
  (document chosen reports).pretty ++ "\n"

/-! ## Reading -/

/-- An entry of which some fields have been read; a field can be there without a value. -/
structure EntryDraft where
  path : Option String := none
  error : Option (Option String) := none
  declarations : Option (Option (Array Declaration)) := none
  calls : Option (Option (Array Call)) := none
  receivers : Option (Option ReceiverCalls) := none

/-- How an entry is written. -/
def entryShape : Shape EntryDraft Entry where
  name := "JsonFile"
  start := {}
  fields := [
    { name := "path", optional := false, isSet := (·.path.isSome),
      read := fun draft => return { draft with path := some (← readText) } },
    { name := "error", optional := true, isSet := (·.error.isSome),
      read := fun draft => return { draft with error := some (← readOptional readText) } },
    { name := "declarations", optional := true, isSet := (·.declarations.isSome),
      read := fun draft =>
        return { draft with declarations := some (← readOptional readDeclarations) } },
    { name := "signatures", optional := true, isSet := (·.calls.isSome),
      read := fun draft => return { draft with calls := some (← readOptional readCalls) } },
    { name := "receiver_calls", optional := true, isSet := (·.receivers.isSome),
      read := fun draft =>
        return { draft with receivers := some (← readOptional readReceivers) } }]
  finish := fun draft => do
    let path ← needed "path" draft.path
    return {
      path
      error := draft.error.join
      declarations := draft.declarations.join
      calls := draft.calls.join
      receivers := draft.receivers.join }

/-- A document of which some fields have been read. -/
structure DocumentDraft where
  version : Option String := none
  files : Option (Array Entry) := none

/-- How a document is written. -/
def documentShape : Shape DocumentDraft Document where
  name := "JsonReport"
  start := {}
  fields := [
    { name := "version", optional := false, isSet := (·.version.isSome),
      read := fun draft => return { draft with version := some (← readText) } },
    { name := "files", optional := false, isSet := (·.files.isSome),
      read := fun draft =>
        return { draft with files := some (← readList (readRecord entryShape)) } }]
  finish := fun draft => do
    let version ← needed "version" draft.version
    let files ← needed "files" draft.files
    return ⟨version, files.toList⟩

/-- Reads a document from a JSON text. -/
def Document.ofJson (text : String) : Except Json.Fault Document :=
  readAll (readRecord documentShape) text

end JavaFacts.Report
