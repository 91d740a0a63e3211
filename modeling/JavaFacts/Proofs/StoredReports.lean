import JavaFacts.Proofs.StoredFacts
import JavaFacts.Report.Json

/-!
# Reports are read back as they were written

An entry of a report leaves out what it does not hold, and a field that is left out is read as one
that holds nothing. So a report whose facts are stored ones is read back as the document that was
written. For every file, the document has an entry that tells of the file: it has the sections that
were chosen if there are facts, and the error if there are none.
-/

namespace JavaFacts.Report

open JavaFacts.Json

/-! ## Reading back -/

theorem fills_optionalField {α Draft Record : Type} {shape : Shape Draft Record}
    {field : Json.Field Draft} {name : String} {reader : Reader α} {write : α → Json.Value}
    (set : Option (Option α) → Draft) {value : Option α}
    (isField : shape.fields.find? (·.name == name) = some field)
    (isOpen : field.isSet (set none) = false)
    (isRead : field.read (set none) = do return set (some (← readOptional reader)))
    (reads : ∀ given, value = some given → ReadsAs reader (write given) given)
    (isGiven : ∀ given, write given ≠ .null) :
    Fills shape (set none) (optionalField name write value) (set (value.map some)) := by
  cases value with
  | none => exact .nil _
  | some given =>
      refine .cons isField isOpen ?_ (.nil _)
      rw [isRead]
      exact (readsAs_readOptional (reads given rfl) (isGiven given)).map fun found =>
        set (some found)

/-- The facts that an entry holds are stored ones. -/
structure Entry.Stored (entry : Entry) : Prop where
  declarations : ∀ declarations, entry.declarations = some declarations →
    ∀ declaration ∈ declarations, declaration.Stored
  calls : ∀ calls, entry.calls = some calls → ∀ call ∈ calls, call.Stored
  distinct : ∀ receivers, entry.receivers = some receivers → receivers.receivers.Nodup

theorem readsAs_entry {entry : Entry} (stored : entry.Stored) :
    ReadsAs (readRecord entryShape) entry.toJson entry := by
  rcases entry with ⟨path, error, declarations, calls, receivers⟩
  rw [Entry.toJson, List.append_assoc, List.append_assoc]
  apply readsAs_readRecord ⟨some path, error.map some, declarations.map some, calls.map some,
    receivers.map some⟩
  · refine .cons rfl rfl ((readsAs_readText path).map _) ?_
    -- Each field is set in the draft in which only the fields before it are set.
    refine .append (fills_optionalField (EntryDraft.mk (some path) · none none none) rfl rfl rfl
      (fun text _ => readsAs_readText text) nofun) ?_
    refine .append (fills_optionalField (EntryDraft.mk (some path) (error.map some) · none none)
      rfl rfl rfl (fun declarations isGiven =>
        readsAs_declarations (stored.declarations declarations isGiven)) nofun) ?_
    refine .append (fills_optionalField (EntryDraft.mk (some path) (error.map some)
      (declarations.map some) · none) rfl rfl rfl (fun calls isGiven =>
        readsAs_calls (stored.calls calls isGiven)) nofun) ?_
    exact fills_optionalField (EntryDraft.mk (some path) (error.map some) (declarations.map some)
      (calls.map some) ·) rfl rfl rfl (fun receivers isGiven =>
        readsAs_receivers (stored.distinct receivers isGiven)) nofun
  · cases error <;> cases declarations <;> cases calls <;> cases receivers <;> rfl

theorem readsAs_document {document : Document} (stored : ∀ entry ∈ document.files, entry.Stored) :
    ReadsAs (readRecord documentShape) document.toJson document := by
  have readsFiles : ReadsAs (readList (readRecord entryShape))
      (.list (document.files.map Entry.toJson)) document.files.toArray :=
    readsAs_readList fun entry isThere => readsAs_entry (stored entry (List.mem_toArray.mp isThere))
  apply readsAs_readRecord ⟨document.version, document.files.toArray⟩
  · refine .cons rfl rfl ((readsAs_readText document.version).map _) ?_
    exact .cons rfl rfl (readsFiles.map _) (.nil _)
  · rfl

theorem Document.ofJson_pretty {document : Document}
    (stored : ∀ entry ∈ document.files, entry.Stored) (trailing : String)
    (areBlank : AreBlank trailing.toList) :
    Document.ofJson (document.pretty ++ trailing) = .ok document :=
  readAll_of_readsAs (readsAs_document stored) (document.toJson.spells_pretty 0) trailing areBlank

/-! ## What the entries tell -/

/-- An entry tells what became of a file: it has the path of the file, it has an error just if there
are no facts, and it has a section just if there are facts and the section was chosen. -/
structure Entry.Tells (entry : Entry) (report : FileReport) (chosen : List Section) : Prop where
  path : entry.path = report.path
  error : ∀ text, entry.error = some text ↔
    ∃ fault, report.outcome = .error fault ∧ fault.message = text
  declarations : ∀ declarations, entry.declarations = some declarations ↔
    ∃ facts, report.outcome = .ok facts ∧ .declarations ∈ chosen ∧
      facts.declarations = declarations
  calls : ∀ calls, entry.calls = some calls ↔
    ∃ facts, report.outcome = .ok facts ∧ .signatures ∈ chosen ∧ facts.calls = calls
  receivers : ∀ receivers, entry.receivers = some receivers ↔
    ∃ facts, report.outcome = .ok facts ∧ .receivers ∈ chosen ∧ facts.receivers = receivers

theorem Section.among_eq_some_iff {α : Type} {wanted : Section} {chosen : List Section}
    {value found : α} :
    wanted.among chosen value = some found ↔ wanted ∈ chosen ∧ value = found := by
  simp [Section.among]

theorem FileReport.entry_tells (report : FileReport) (chosen : List Section) :
    (report.entry chosen).Tells report chosen := by
  rcases report with ⟨path, fault | facts⟩
  · constructor <;> simp [FileReport.entry]
  · constructor <;> simp [FileReport.entry, Section.among_eq_some_iff]

/-- What an entry tells of stored facts is stored. -/
theorem Entry.Tells.stored {entry : Entry} {report : FileReport} {chosen : List Section}
    (tells : entry.Tells report chosen)
    (stored : ∀ facts, report.outcome = .ok facts → facts.Stored) : entry.Stored := by
  constructor
  · intro declarations isGiven
    rcases (tells.declarations declarations).mp isGiven with ⟨facts, isOk, -, rfl⟩
    exact (stored facts isOk).declarations
  · intro calls isGiven
    rcases (tells.calls calls).mp isGiven with ⟨facts, isOk, -, rfl⟩
    exact (stored facts isOk).calls
  · intro receivers isGiven
    rcases (tells.receivers receivers).mp isGiven with ⟨facts, isOk, -, rfl⟩
    exact (stored facts isOk).distinct

/-- A report on stored facts is read back as its document, which has for every file in turn an entry
that tells what became of it. -/
theorem json_isReadBack (chosen : List Section) (reports : List FileReport)
    (stored : ∀ report ∈ reports, ∀ facts, report.outcome = .ok facts → facts.Stored) :
    Document.ofJson (json chosen reports) = .ok (document chosen reports) ∧
      List.Forall₂ (fun report entry => Entry.Tells entry report chosen) reports
        (document chosen reports).files := by
  constructor
  · apply Document.ofJson_pretty _ "\n" (by simp [AreBlank, Cursor.isBlank])
    intro entry isThere
    rcases List.mem_map.mp isThere with ⟨report, isReport, rfl⟩
    exact (report.entry_tells chosen).stored (stored report isReport)
  · rw [document, List.forall₂_map_right_iff, List.forall₂_same]
    exact fun report _ => report.entry_tells chosen

namespace FailedFile

/-- Facts with a receiver and an argument that are hard to write. -/
def facts : Facts where
  declarations := #[⟨"main", 1, UInt64.size - 1, []⟩]
  calls := #[⟨"g", 1, 1, ["\"\\\n\x00\x7d"]⟩]
  receivers := ⟨#[("é\t\"", #["g"]), ("", #[])]⟩

/-- Files of which one cannot be read. -/
def reports : List FileReport := [
  ⟨"a \"b\".java", .ok facts⟩,
  ⟨"gone.java", .error (.unreadable "gone.java" .notFound)⟩]

def chosen : List Section := [.receivers, .signatures, .receivers]

theorem json_isReadBack_failedFile :
    facts.Stored ∧ Document.ofJson (json chosen reports) = .ok ⟨"1", [
      { path := "a \"b\".java", calls := some facts.calls, receivers := some facts.receivers },
      { path := "gone.java",
        error := some "cannot read gone.java: No such file or directory (os error 2)" }]⟩ := by
  have stored : facts.Stored := by
    constructor
    · intro declaration isDeclaration
      obtain rfl : declaration = ⟨"main", 1, UInt64.size - 1, []⟩ := by
        simpa [facts] using isDeclaration
      exact ⟨by decide, by decide⟩
    · intro call isCall
      obtain rfl : call = ⟨"g", 1, 1, ["\"\\\n\x00\x7d"]⟩ := by simpa [facts] using isCall
      exact ⟨by decide, by decide⟩
    · decide
  have allStored : ∀ report ∈ reports, ∀ facts, report.outcome = .ok facts → facts.Stored := by
    simp [reports, stored]
  exact ⟨stored, (json_isReadBack chosen reports allStored).1⟩

end FailedFile

end JavaFacts.Report
