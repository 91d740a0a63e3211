import JavaFacts.Command.Scan
import JavaFacts.Proofs.CollectedFiles
import JavaFacts.Proofs.InOrder

/-!
# How a scan ends

A scan is stopped by a configuration that cannot be loaded, by a format or a section that nobody
knows, by a path that leads nowhere and by a directory that cannot be walked. If it is not stopped,
what it reports on follows from its arguments and the configuration: the format and the sections are
those of the command line or else those of the configuration, and the files are those at the paths,
path by path. Every file has a report of its own.
-/

namespace JavaFacts

open JavaFacts.InOrder

/-! ## Choices by name -/

namespace Report

theorem Section.mem_all (wanted : Section) : wanted ∈ all := by
  cases wanted <;> decide

theorem Section.mem_arranged_iff {wanted : Section} {chosen : List Section} :
    wanted ∈ arranged chosen ↔ wanted ∈ chosen := by
  simp [arranged, mem_all]

end Report

namespace Command

open JavaFacts.Report

variable {disk : Disk} {arguments : ScanArguments}

/-! ## What stops a scan -/

/-- The configuration of a scan. -/
def configFor (disk : Disk) (arguments : ScanArguments) : Except Config.LoadFault Config :=
  Config.load disk arguments.config (Disk.Path.ofLocation disk.workplace)

/-- The files that a configuration asks for. -/
def wantedBy (config : Config) : Disk.Wanted := ⟨config.chosenExtensions, config.followsLinks⟩

/-- The sections are in their order and each at most once. They are those of the command line if it
names any, or else those of the configuration, or else all. -/
structure ChoosesSections (arguments : ScanArguments) (config : Config) (sections : List Section) :
    Prop where
  inOrder : sections.Sublist Section.all
  named : arguments.sections ≠ #[] → ∀ wanted : Section,
    wanted ∈ sections ↔ "all" ∈ arguments.sections ∨ wanted.name ∈ arguments.sections
  configured : arguments.sections = #[] → config.sections ≠ #[] → ∀ wanted,
    wanted ∈ sections ↔ wanted ∈ config.sections
  usual : arguments.sections = #[] → config.sections = #[] → sections = Section.all

/-- The files for a path: those below it if it leads to a directory, or else the path itself. -/
inductive StandsFor (disk : Disk) (wanted : Disk.Wanted) : Disk.Path → List Disk.Path → Prop
  | directory {path : Disk.Path} {access : Disk.Access} {entries : List (Disk.Name × Disk.Entry)}
      {files : List Disk.Path}
      (isDirectory : Disk.entryAt disk path = .ok (.directory access entries))
      (isWalked : Disk.collect disk wanted path = .ok files) : StandsFor disk wanted path files
  | file {path : Disk.Path} {entry : Disk.Entry} (isThere : Disk.entryAt disk path = .ok entry)
      (notDirectory : ∀ access entries, entry ≠ .directory access entries) :
      StandsFor disk wanted path [path]

theorem lift_eq_ok_iff {α ε : Type} {wrap : ε → ScanFault} {attempt : Except ε α} {value : α} :
    lift wrap attempt = .ok value ↔ attempt = .ok value := by
  cases attempt <;> simp [lift]

theorem filesAt_eq_ok_iff {wanted : Disk.Wanted} {path : Disk.Path} {files : List Disk.Path} :
    filesAt disk wanted path = .ok files ↔ StandsFor disk wanted path files := by
  constructor
  · intro isOk
    rw [filesAt] at isOk
    split at isOk
    · cases isOk
    · next access entries isDirectory =>
      split at isOk
      · cases isOk
      · next isWalked =>
        cases isOk
        exact .directory isDirectory isWalked
    · next entry notDirectory isThere =>
      cases isOk
      exact .file isThere notDirectory
  · intro standsFor
    cases standsFor with
    | directory isDirectory isWalked => simp only [filesAt, isDirectory, isWalked]
    | @file entry isThere notDirectory =>
        rw [filesAt, isThere]
        cases entry with
        | directory access entries => exact absurd rfl (notDirectory access entries)
        | file content => rfl
        | link target => rfl
        | special content => rfl

theorem choosesSections_configured {config : Config} (notNamed : arguments.sections = #[]) :
    ChoosesSections arguments config config.chosenSections := by
  have isNamed : arguments.sections ≠ #[] → ∀ wanted : Section, wanted ∈ config.chosenSections ↔
      "all" ∈ arguments.sections ∨ wanted.name ∈ arguments.sections := absurd notNamed
  by_cases isEmpty : config.sections = #[]
  · have isAll : config.chosenSections = Section.all := by simp [Config.chosenSections, isEmpty]
    refine ⟨?_, isNamed, fun _ => absurd isEmpty, fun _ _ => isAll⟩
    rw [isAll]
  · have isArranged : config.chosenSections = Section.arranged config.sections.toList := by
      simp [Config.chosenSections, isEmpty]
    refine ⟨?_, isNamed, fun _ _ wanted => ?_, fun _ isNone => absurd isNone isEmpty⟩
    · rw [isArranged]
      exact List.filter_sublist
    · rw [isArranged, Section.mem_arranged_iff, Array.mem_toList_iff]

/-! ## A plan is made unless the scan is stopped -/

/-- The format that arguments and a configuration ask for. -/
def formatFor (arguments : ScanArguments) (config : Config) : Except ScanFault Format :=
  match arguments.format with
  | some name => lift .choice (Format.ofName name)
  | none => .ok config.chosenFormat

/-- The sections that arguments and a configuration ask for. -/
def sectionsFor (arguments : ScanArguments) (config : Config) : Except ScanFault (List Section) :=
  if arguments.sections.isEmpty then .ok config.chosenSections
  else lift .choice (chosenSections arguments.sections.toList)

-- The program joins its branches before it goes on; here every step is made by itself.
theorem plan_eq (disk : Disk) (arguments : ScanArguments) :
    plan disk arguments = do
      let config ← lift .config (configFor disk arguments)
      let format ← formatFor arguments config
      let sections ← sectionsFor arguments config
      let parts ← arguments.paths.toList.mapM (filesAt disk (wantedBy config))
      return ⟨format, sections, parts.flatten⟩ := by
  rw [plan]
  congr 1
  funext config
  rw [formatFor, sectionsFor]
  cases arguments.format with
  | some name => split <;> rfl
  | none => split <;> rfl

theorem plan_eq_ok_iff {result : Plan} :
    plan disk arguments = .ok result ↔
      ∃ config format sections parts, configFor disk arguments = .ok config ∧
        formatFor arguments config = .ok format ∧ sectionsFor arguments config = .ok sections ∧
        arguments.paths.toList.mapM (filesAt disk (wantedBy config)) = .ok parts ∧
        result = ⟨format, sections, parts.flatten⟩ := by
  simp only [plan_eq, bind_eq_ok_iff, lift_eq_ok_iff]
  constructor
  · rintro ⟨config, isLoaded, format, isFormat, sections, areSections, parts, areParts, isPlan⟩
    cases isPlan
    exact ⟨config, format, sections, parts, isLoaded, isFormat, areSections, areParts, rfl⟩
  · rintro ⟨config, format, sections, parts, isLoaded, isFormat, areSections, areParts, rfl⟩
    exact ⟨config, isLoaded, format, isFormat, sections, areSections, parts, areParts, rfl⟩

/-- The report on a file says why it cannot be read, or else what came of its text. -/
structure OwnReport (disk : Disk) (file : Disk.Path) (report : FileReport) : Prop where
  path : report.path = Disk.Path.text file
  unread : ∀ fault, Disk.readText disk file = .error fault →
    report.outcome = .error (.unreadable (Disk.Path.text file) fault)
  analyzed : ∀ source, Disk.readText disk file = .ok source → report.outcome = analyze source

theorem ownReport_scanFile (disk : Disk) (file : Disk.Path) :
    OwnReport disk file (scanFile disk file) := by
  refine ⟨rfl, ?_, ?_⟩
  · intro fault isUnread
    simp only [scanFile, isUnread]
  · intro source isRead
    simp only [scanFile, isRead]

/-- The outcome of a scan with reports: the output has a part for every report, and the status tells
whether all files yielded facts. -/
structure Reported (plan : Plan) (color : Bool) (reports : List FileReport) (outcome : Outcome) :
    Prop where
  json : plan.format = .json →
    outcome.output = (Document.mk version (reports.map (·.entry plan.sections))).pretty ++ "\n"
  text : plan.format = .text →
    outcome.output = String.join (reports.map fun report =>
      report.header ⟨plan.sections, color, 1 < reports.length⟩ ++
        report.body ⟨plan.sections, color, 1 < reports.length⟩)
  success : outcome.exitCode = 0 ↔ ∀ report ∈ reports, Succeeds report.outcome
  failure : outcome.exitCode = 1 ↔ ∃ report ∈ reports, ¬ Succeeds report.outcome

theorem isOk_iff {report : FileReport} : report.isOk ↔ Succeeds report.outcome := by
  rcases report with ⟨path, fault | facts⟩ <;> simp [FileReport.isOk, Succeeds]

theorem all_isOk_iff {reports : List FileReport} :
    reports.all FileReport.isOk ↔ ∀ report ∈ reports, Succeeds report.outcome := by
  simp only [List.all_eq_true, isOk_iff]

theorem not_all_isOk_iff {reports : List FileReport} :
    ¬ reports.all FileReport.isOk ↔ ∃ report ∈ reports, ¬ Succeeds report.outcome := by
  simp only [all_isOk_iff, not_forall, exists_prop]

theorem reported_scan {result : Plan} (isPlan : plan disk arguments = .ok result)
    (hasFiles : result.files ≠ []) (color : Bool) :
    Reported result color (result.files.map (scanFile disk)) (scan disk color arguments) := by
  have isScan : scan disk color arguments =
      ⟨if (result.files.map (scanFile disk)).all FileReport.isOk then 0 else 1,
        result.report color (result.files.map (scanFile disk)), ""⟩ := by
    simp only [scan, isPlan, List.isEmpty_iff, hasFiles, if_false]
  rw [isScan]
  constructor
  · intro isJson
    simp only [Plan.report, isJson]
    rfl
  · intro isText
    simp only [Plan.report, isText]
    rfl
  · rw [← all_isOk_iff]
    split <;> simp [*]
  · rw [← not_all_isOk_iff]
    split <;> simp [*]

namespace UnreadableFiles

open Disk.Path (ofText)

/-- A file that is no text, and a file that is not wanted. -/
def sources : List (Disk.Name × Disk.Entry) :=
  [(ofText "b.java", .file (.ok ⟨#[255]⟩)), (ofText "a.txt", .file (.error .denied))]

/-- The sources next to a file that is no text and a directory that cannot be opened. -/
def garbledDisk : Disk where
  root := .directory {} [
    (ofText "bin.java", .file (.ok ⟨#[99, 108, 255, 254]⟩)),
    (ofText "src", .directory {} sources),
    (ofText "locked", .directory { opening := some .denied } [])]
  workplace := []

def request : ScanArguments where
  paths := #[ofText "src", ofText "bin.java"]
  sections := #["receivers", "declarations", "receivers"]

def planned : Plan where
  format := .text
  sections := [.declarations, .receivers]
  files := [ofText "src/b.java", ofText "bin.java"]

theorem entryAt_file :
    Disk.entryAt garbledDisk (ofText "bin.java") = .ok (.file (.ok ⟨#[99, 108, 255, 254]⟩)) := by
  have isProper : Disk.Path.IsProper (ofText "bin.java") := by decide +kernel
  exact Disk.entryAt_name rfl rfl isProper rfl (by simp)

theorem entryAt_sources :
    Disk.entryAt garbledDisk (ofText "src") = .ok (.directory {} sources) := by
  have isProper : Disk.Path.IsProper (ofText "src") := by decide +kernel
  exact Disk.entryAt_name rfl rfl isProper rfl (by simp)

theorem configFor_eq {arguments : ScanArguments} (notGiven : arguments.config = none) :
    configFor garbledDisk arguments = .ok {} := by
  have paths : Config.usualNames.map (Disk.Path.join (Disk.Path.ofLocation [])) =
      [ofText "/methodscan.yaml", ofText "/.methodscan.yaml"] := by decide +kernel
  have names : Disk.Path.names (ofText "/methodscan.yaml") = [ofText "methodscan.yaml"] := by
    decide +kernel
  have hiddenNames : Disk.Path.names (ofText "/.methodscan.yaml") =
      [ofText ".methodscan.yaml"] := by decide +kernel
  have notFound : Config.discover? garbledDisk (Disk.Path.ofLocation garbledDisk.workplace) =
      none := by
    simp +decide [Config.discover?, garbledDisk, paths, Disk.isFile, Disk.entryAt, Disk.resolve,
      names, hiddenNames, Disk.follow, Disk.turn, Disk.Entry.get?]
  have isFine : Config.defect? {} = none := by decide +kernel
  simp only [configFor, Config.load, notGiven, notFound, isFine]

theorem collect_sources :
    Disk.collect garbledDisk (wantedBy {}) (ofText "src") = .ok [ofText "src/b.java"] := by
  have isListed : Disk.listing garbledDisk (ofText "src") =
      .ok [(ofText "a.txt", .file (.error .denied)), (ofText "b.java", .file (.ok ⟨#[255]⟩))] := by
    rw [Disk.listing, entryAt_sources]
    simp +decide [Disk.sortedEntries, sources, List.mergeSort]
  rw [Disk.collect_eq_collectBelow rfl, Disk.collectBelow, isListed]
  exact toOption_eq_some_iff.mp (by decide +kernel)

theorem plan_eq_planned : plan garbledDisk request = .ok planned := by
  refine plan_eq_ok_iff.mpr ⟨{}, .text, [.declarations, .receivers],
    [[ofText "src/b.java"], [ofText "bin.java"]], configFor_eq rfl, rfl, ?_,
    mapM_eq_ok_iff.mpr ?_, rfl⟩
  · exact toOption_eq_some_iff.mp (by decide +kernel)
  · exact .cons (filesAt_eq_ok_iff.mpr (.directory entryAt_sources collect_sources))
      (.cons (filesAt_eq_ok_iff.mpr (.file entryAt_file (by simp))) .nil)

/-- The same scan with the directory that cannot be opened. -/
def refused : ScanArguments := { request with paths := #[ofText "src", ofText "locked"] }

end UnreadableFiles

/-! ## Files that cannot be read -/

/-- A fault of parsing lies in the text. -/
theorem isInText_of_parseWith {concrete : String → ConcreteTree} {source : String}
    {fault : SourceFault} (fails : SourceUnit.parseWith concrete source = .error fault) :
    fault.isInText := by
  simp only [SourceUnit.parseWith] at fails
  split at fails
  · split at fails <;> cases fails
    rfl
  · split at fails
    · cases fails
      rfl
    · split at fails <;> cases fails
      rfl

/-- A fault of the analysis lies in the text. -/
theorem isInText_of_analyzeWith {concrete : String → ConcreteTree} {source : String}
    {fault : SourceFault} (fails : analyzeWith concrete source = .error fault) :
    fault.isInText := by
  simp only [analyzeWith] at fails
  split at fails
  · next isFault =>
    cases fails
    exact isInText_of_parseWith isFault
  · split at fails <;> cases fails
    rfl

/-- Whether a file could not be read. -/
def isUnread (report : FileReport) : Bool :=
  match report.outcome with
  | .ok _ => false
  | .error fault => !fault.isInText

/-- The status that tells faults of reading from faults in the text: 2 if a file could not be read,
or else 1 if a text is faulty, or else 0. -/
def statusByCause (reports : List FileReport) : Nat :=
  if reports.any isUnread then 2 else if reports.all FileReport.isOk then 0 else 1

theorem isUnread_scanFile_iff {file : Disk.Path} :
    isUnread (scanFile disk file) ↔ ¬ Succeeds (Disk.readText disk file) := by
  rcases isRead : Disk.readText disk file with fault | source
  · have isFault := (ownReport_scanFile disk file).unread fault isRead
    simp [isUnread, isFault, SourceFault.isInText, Succeeds]
  · have isAnalyzed := (ownReport_scanFile disk file).analyzed source isRead
    rcases isOutcome : analyze source with fault | facts
    · rw [isOutcome] at isAnalyzed
      simp [isUnread, isAnalyzed, isInText_of_analyzeWith isOutcome, Succeeds]
    · rw [isOutcome] at isAnalyzed
      simp [isUnread, isAnalyzed, Succeeds]

theorem any_isUnread_iff {files : List Disk.Path} :
    (files.map (scanFile disk)).any isUnread ↔
      ∃ file ∈ files, ¬ Succeeds (Disk.readText disk file) := by
  simp only [List.any_map, List.any_eq_true, Function.comp_apply, isUnread_scanFile_iff]

/-- A scan with a report ends with the status 1 if a file yields no facts, whatever the cause. That
is the status by cause just as long as all files can be read: a file that cannot be read ought to
give the status 2. -/
theorem exitCode_scan_byCause {result : Plan} (isPlan : plan disk arguments = .ok result)
    (hasFiles : result.files ≠ []) (color : Bool) :
    ((∀ file ∈ result.files, Succeeds (Disk.readText disk file)) →
      (scan disk color arguments).exitCode = statusByCause (result.files.map (scanFile disk))) ∧
      ((∃ file ∈ result.files, ¬ Succeeds (Disk.readText disk file)) →
        (scan disk color arguments).exitCode = 1 ∧
          statusByCause (result.files.map (scanFile disk)) = 2) := by
  have reported := reported_scan isPlan hasFiles color
  constructor
  · intro areReadable
    have noneUnread : ¬ (result.files.map (scanFile disk)).any isUnread := by
      rw [any_isUnread_iff]
      simpa using areReadable
    rw [statusByCause, if_neg noneUnread]
    split
    · next areFine => exact reported.success.mpr (all_isOk_iff.mp areFine)
    · next notFine => exact reported.failure.mpr (not_all_isOk_iff.mp notFine)
  · rintro ⟨file, isThere, notRead⟩
    have someUnread := any_isUnread_iff.mpr ⟨file, isThere, notRead⟩
    refine ⟨reported.failure.mpr ?_, ?_⟩
    · -- The fault of reading is the outcome of the file.
      rcases not_succeeds_iff.mp notRead with ⟨fault, fails⟩
      refine ⟨scanFile disk file, List.mem_map_of_mem isThere, ?_⟩
      exact not_succeeds_iff.mpr ⟨_, (ownReport_scanFile disk file).unread fault fails⟩
    · rw [statusByCause, if_pos someUnread]

namespace UnreadableFiles

open Disk.Path (ofText)

theorem exitCode_scan_unreadableFiles :
    plan garbledDisk request = .ok planned ∧ (scan garbledDisk false request).exitCode = 1 ∧
      statusByCause (planned.files.map (scanFile garbledDisk)) = 2 := by
  have notText : ¬ Succeeds (Disk.readText garbledDisk (ofText "bin.java")) := by
    rw [Disk.readText, entryAt_file]
    decide +kernel
  refine ⟨plan_eq_planned, ?_⟩
  exact (exitCode_scan_byCause plan_eq_planned (by simp [planned]) false).2
    ⟨ofText "bin.java", by simp [planned], notText⟩

end UnreadableFiles

end Command

end JavaFacts
