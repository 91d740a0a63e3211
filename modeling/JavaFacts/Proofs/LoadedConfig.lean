import Mathlib.Data.List.TakeWhile
import JavaFacts.Proofs.CollectedFiles
import JavaFacts.Proofs.ScanOutcome

/-!
# What a loaded configuration says

A configuration is refused when it is loaded if its log level is blank or if one of its extensions
is empty once the dots before it are gone. So the extensions of a loaded configuration are never
empty. That matters where files are collected: a name whose extension is missing or no text is looked
up under the empty one, and a scan would take all such files if the empty extension could be listed.
-/

namespace JavaFacts

theorem Text.trimBlanks_eq_empty_iff {text : String} :
    trimBlanks text = "" ↔ ∀ character ∈ text.toList, isBlank character := by
  have isEmpty : trimBlanks text = "" ↔
      ∀ character ∈ text.toList.dropWhile isBlank, isBlank character := by
    simp [trimBlanks, List.dropWhile_eq_nil_iff]
  rw [isEmpty]
  constructor
  · intro areBlank character isThere
    rw [← List.takeWhile_append_dropWhile (p := isBlank) (l := text.toList)] at isThere
    rcases List.mem_append.mp isThere with isBefore | isBehind
    · exact List.mem_takeWhile_imp isBefore
    · exact areBlank character isBehind
  · intro areBlank character isThere
    exact areBlank character ((List.dropWhile_sublist isBlank).subset isThere)

namespace Config

open JavaFacts.InOrder
open JavaFacts.Report

/-! ## What is refused -/

theorem withoutDots_not_startsWithDot (text : String) :
    (withoutDots text).toList.head? ≠ some '.' := by
  intro isDot
  have notDropped := List.head?_dropWhile_not (· == '.') text.toList
  rw [withoutDots, String.toList_ofList] at isDot
  simp [isDot] at notDropped

theorem defect?_eq_none_iff {config : Config} :
    config.defect? = none ↔
      (∀ level, config.logLevel = some level →
        ∃ character ∈ level.toList, ¬Text.isBlank character) ∧
      ∀ extension ∈ config.extensions, withoutDots extension ≠ "" := by
  have levels : (config.logLevel.any fun level => (Text.trimBlanks level).isEmpty) = false ↔
      ∀ level, config.logLevel = some level →
        ∃ character ∈ level.toList, ¬Text.isBlank character := by
    simp [Option.any_eq_false, Text.trimBlanks_eq_empty_iff]
  have extensions :
      (config.extensions.any fun extension => (withoutDots extension).isEmpty) = false ↔
        ∀ extension ∈ config.extensions, withoutDots extension ≠ "" := by
    rw [Array.any_eq_false']
    simp
  rw [← levels, ← extensions, defect?]
  split
  · next isBlank => simp [isBlank]
  · split
    · next isEmpty => simp [isEmpty]
    · simp_all

/-! ## What is loaded -/

/-- A configuration comes from the file that is chosen; if there is no file, everything in it is
left out. -/
inductive ComesFrom (disk : Disk) (given : Option Disk.Path) (directory : Disk.Path) : Config → Prop
  | file {path : Disk.Path} {text : String} {config : Config}
      (isChosen : given = some path ∨ given = none ∧ discover? disk directory = some path)
      (isRead : Disk.readText disk path = .ok text) (isDecoded : ofYaml text = .ok config) :
      ComesFrom disk given directory config
  | usual (notGiven : given = none) (notFound : discover? disk directory = none) :
      ComesFrom disk given directory {}

/-- What can be relied on in a configuration. The sections are in their order, each at most once;
they are those that are listed, or all if none is. -/
structure Usable (config : Config) : Prop where
  someExtension : config.chosenExtensions ≠ []
  bareExtensions : ∀ extension ∈ config.chosenExtensions,
    extension ≠ "" ∧ extension.toList.head? ≠ some '.'
  levelNotBlank : ∃ character ∈ config.chosenLogLevel.toList, ¬Text.isBlank character
  someSection : config.chosenSections ≠ []
  sectionsInOrder : config.chosenSections.Sublist Section.all
  sectionsListed : config.sections ≠ #[] → ∀ chosen,
    chosen ∈ config.chosenSections ↔ chosen ∈ config.sections
  sectionsUsual : config.sections = #[] → config.chosenSections = Section.all

theorem readFile_eq_ok_iff {disk : Disk} {path : Disk.Path} {config : Config} :
    readFile disk path = .ok config ↔
      ∃ text, Disk.readText disk path = .ok text ∧ ofYaml text = .ok config := by
  rw [readFile]
  split
  · next fails => simp [fails]
  · next text isRead =>
    simp only [isRead]
    split
    · next fails => simp [fails]
    · next isDecoded => simp [isDecoded]

/-- The configuration before it is checked. -/
def unchecked (disk : Disk) (given : Option Disk.Path) (directory : Disk.Path) :
    Except LoadFault Config :=
  match given.or (discover? disk directory) with
  | some path => readFile disk path
  | none => .ok {}

/-- A configuration if nothing is wrong with it. -/
def checked (config : Config) : Except LoadFault Config :=
  match config.defect? with
  | some defect => .error (.unusable defect)
  | none => .ok config

theorem load_eq (disk : Disk) (given : Option Disk.Path) (directory : Disk.Path) :
    load disk given directory = unchecked disk given directory >>= checked := by
  unfold load unchecked
  cases given with
  | some path =>
      dsimp only [Option.some_or]
      cases readFile disk path <;> rfl
  | none =>
      dsimp only [Option.none_or]
      cases discover? disk directory with
      | some path =>
          dsimp only
          cases readFile disk path <;> rfl
      | none => rfl

theorem checked_eq_ok_iff {config found : Config} :
    checked config = .ok found ↔ config = found ∧ config.defect? = none := by
  rw [checked]
  split
  · next isDefect => simp [isDefect]
  · next isFine => simp [isFine]

theorem unchecked_eq_ok_iff {disk : Disk} {given : Option Disk.Path} {directory : Disk.Path}
    {config : Config} :
    unchecked disk given directory = .ok config ↔ ComesFrom disk given directory config := by
  rw [unchecked]
  constructor
  · intro isOk
    split at isOk
    · next path isPath =>
      rcases readFile_eq_ok_iff.mp isOk with ⟨text, isRead, isDecoded⟩
      have isChosen : given = some path ∨ given = none ∧ discover? disk directory = some path := by
        rcases given with _ | known
        · exact .inr ⟨rfl, isPath⟩
        · exact .inl isPath
      exact .file isChosen isRead isDecoded
    · next isMissing =>
      cases isOk
      rcases Option.or_eq_none_iff.mp isMissing with ⟨notGiven, notFound⟩
      exact .usual notGiven notFound
  · intro comesFrom
    cases comesFrom with
    | @file path text _ isChosen isRead isDecoded =>
        have isPath : given.or (discover? disk directory) = some path := by
          rcases isChosen with rfl | ⟨rfl, isFound⟩
          · rfl
          · exact isFound
        rw [isPath]
        exact readFile_eq_ok_iff.mpr ⟨text, isRead, isDecoded⟩
    | usual notGiven notFound =>
        rw [notGiven, notFound]
        rfl

/-- A configuration is loaded just if it comes from where it should and nothing is wrong with it. -/
theorem load_eq_ok_iff {disk : Disk} {given : Option Disk.Path} {directory : Disk.Path}
    {config : Config} :
    load disk given directory = .ok config ↔
      ComesFrom disk given directory config ∧ config.defect? = none := by
  simp only [load_eq, bind_eq_ok_iff, checked_eq_ok_iff, unchecked_eq_ok_iff]
  constructor
  · rintro ⟨found, comesFrom, rfl, isFine⟩
    exact ⟨comesFrom, isFine⟩
  · rintro ⟨comesFrom, isFine⟩
    exact ⟨config, comesFrom, rfl, isFine⟩

/-! ## What can be relied on -/

theorem mem_chosenExtensions {config : Config} {extension : String}
    (isChosen : extension ∈ config.chosenExtensions) :
    extension = "java" ∨ ∃ written ∈ config.extensions, withoutDots written = extension := by
  rw [chosenExtensions] at isChosen
  split at isChosen
  · exact .inl (List.mem_singleton.mp isChosen)
  · right
    simpa using isChosen

theorem bare_of_mem_chosenExtensions {config : Config}
    (noneEmpty : ∀ extension ∈ config.extensions, withoutDots extension ≠ "") {extension : String}
    (isChosen : extension ∈ config.chosenExtensions) :
    extension ≠ "" ∧ extension.toList.head? ≠ some '.' := by
  rcases mem_chosenExtensions isChosen with rfl | ⟨written, isWritten, rfl⟩
  · decide
  · exact ⟨noneEmpty written isWritten, withoutDots_not_startsWithDot written⟩

theorem someSection_of_chooses {config : Config}
    (listed : config.sections ≠ #[] → ∀ chosen,
      chosen ∈ config.chosenSections ↔ chosen ∈ config.sections)
    (usual : config.sections = #[] → config.chosenSections = Section.all) :
    config.chosenSections ≠ [] := by
  by_cases isEmpty : config.sections = #[]
  · rw [usual isEmpty]
    decide
  · rcases Array.exists_mem_of_ne_empty _ isEmpty with ⟨chosen, isListed⟩
    exact List.ne_nil_of_mem ((listed isEmpty chosen).mpr isListed)

theorem usable_of_defect? {config : Config} (isFine : config.defect? = none) : config.Usable := by
  rcases defect?_eq_none_iff.mp isFine with ⟨notBlank, noneEmpty⟩
  have chooses : Command.ChoosesSections {} config config.chosenSections :=
    Command.choosesSections_configured rfl
  refine ⟨?_, fun _ => bare_of_mem_chosenExtensions noneEmpty, ?_, ?_, chooses.inOrder,
    chooses.configured rfl, chooses.usual rfl⟩
  · rw [chosenExtensions]
    split
    · simp
    · next someWritten => simpa using someWritten
  · rcases isLevel : config.logLevel with _ | level
    · rw [chosenLogLevel, isLevel]
      exact ⟨'w', by decide, by decide⟩
    · rw [chosenLogLevel, isLevel]
      exact notBlank level isLevel
  · exact someSection_of_chooses (chooses.configured rfl) (chooses.usual rfl)

/-- A configuration that is loaded is usable. Whatever disk is scanned under it, every file that is
found in a directory has an extension of the configuration, and that is not the empty one. -/
theorem load_isUsable {disk : Disk} {given : Option Disk.Path} {directory : Disk.Path}
    {config : Config} (loads : load disk given directory = .ok config) :
    ComesFrom disk given directory config ∧ config.Usable ∧
      ∀ (scanned : Disk) (path : Disk.Path) (access : Disk.Access)
        (entries : List (Disk.Name × Disk.Entry)) (files : List Disk.Path), scanned.root.Tidy →
        Disk.entryAt scanned path = .ok (.directory access entries) →
        Command.filesAt scanned (Command.wantedBy config) path = .ok files →
        ∀ file ∈ files, ∃ name extension, (Disk.Path.names file).getLast? = some name ∧
          Disk.Path.HasExtension name extension ∧ extension ≠ "" ∧
          extension ∈ config.chosenExtensions := by
  rcases load_eq_ok_iff.mp loads with ⟨comesFrom, isFine⟩
  have usable := usable_of_defect? isFine
  refine ⟨comesFrom, usable, ?_⟩
  intro scanned path access entries files tidy isDirectory areFiles file isFile
  have isCollected : Disk.collect scanned (Command.wantedBy config) path = .ok files := by
    cases Command.filesAt_eq_ok_iff.mp areFiles with
    | directory _ isWalked => exact isWalked
    | file isThere notDirectory =>
        rw [isDirectory] at isThere
        cases isThere
        exact absurd rfl (notDirectory access entries)
  rcases Disk.extension_of_collect tidy isCollected file isFile with
    ⟨name, extension, isName, hasExtension, isListed⟩
  exact ⟨name, extension, isName, hasExtension, (usable.bareExtensions extension isListed).1,
    isListed⟩

namespace DottedExtensions

/-- The text of a configuration whose extensions have dots before them. -/
def text : String := "extensions: [.java, ..kt]\nsections: [receivers, declarations, receivers]\n"

def config : Config where
  extensions := #[".java", "..kt"]
  sections := #[.receivers, .declarations, .receivers]

open Disk.Path (ofText)

/-- A file with a listed extension and one without any. -/
def sources : List (Disk.Name × Disk.Entry) :=
  [(ofText "b.kt", .file (.ok ⟨#[]⟩)), (ofText "Makefile", .file (.ok ⟨#[]⟩))]

def configuredDisk : Disk where
  root := .directory {} [
    (ofText "setup.yaml", .file (.ok text.toUTF8)),
    (ofText "src", .directory {} sources)]
  workplace := []

theorem entryAt_config :
    Disk.entryAt configuredDisk (ofText "setup.yaml") = .ok (.file (.ok text.toUTF8)) := by
  have isProper : Disk.Path.IsProper (ofText "setup.yaml") := by decide +kernel
  exact Disk.entryAt_name rfl rfl isProper rfl (by simp)

theorem entryAt_sources :
    Disk.entryAt configuredDisk (ofText "src") = .ok (.directory {} sources) := by
  have isProper : Disk.Path.IsProper (ofText "src") := by decide +kernel
  exact Disk.entryAt_name rfl rfl isProper rfl (by simp)

theorem loads_config : load configuredDisk (some (ofText "setup.yaml")) (ofText "/") =
    .ok config := by
  have isRead : Disk.readText configuredDisk (ofText "setup.yaml") = .ok text := by
    rw [Disk.readText, entryAt_config]
    exact toOption_eq_some_iff.mp (by decide +kernel)
  have isDecoded : ofYaml text = .ok config := toOption_eq_some_iff.mp (by decide +kernel)
  exact load_eq_ok_iff.mpr ⟨.file (.inl rfl) isRead isDecoded, by decide +kernel⟩

theorem tidy_root : configuredDisk.root.Tidy := by
  refine .directory _ (by decide +kernel) (by decide +kernel) ?_
  intro item isItem
  simp only [List.mem_cons, List.not_mem_nil, or_false] at isItem
  rcases isItem with rfl | rfl
  · exact .file _
  · refine .directory _ (by decide +kernel) (by decide +kernel) ?_
    simp [sources, Disk.Entry.Tidy.file]

theorem filesAt_sources :
    Command.filesAt configuredDisk (Command.wantedBy config) (ofText "src") =
      .ok [ofText "src/b.kt"] := by
  have isListed : Disk.listing configuredDisk (ofText "src") =
      .ok [(ofText "Makefile", .file (.ok ⟨#[]⟩)), (ofText "b.kt", .file (.ok ⟨#[]⟩))] := by
    rw [Disk.listing, entryAt_sources]
    simp +decide [Disk.sortedEntries, sources, List.mergeSort]
  refine Command.filesAt_eq_ok_iff.mpr (.directory entryAt_sources ?_)
  rw [Disk.collect_eq_collectBelow rfl, Disk.collectBelow, isListed]
  exact toOption_eq_some_iff.mp (by decide +kernel)

theorem load_isUsable_dottedExtensions :
    load configuredDisk (some (ofText "setup.yaml")) (ofText "/") = .ok config ∧ config.Usable ∧
      config.chosenExtensions = ["java", "kt"] ∧
      config.chosenSections = [.declarations, .receivers] ∧
      Command.filesAt configuredDisk (Command.wantedBy config) (ofText "src") =
        .ok [ofText "src/b.kt"] ∧
      ∃ name extension, (Disk.Path.names (ofText "src/b.kt")).getLast? = some name ∧
        Disk.Path.HasExtension name extension ∧ extension ≠ "" ∧
        extension ∈ config.chosenExtensions := by
  rcases load_isUsable loads_config with ⟨-, usable, scans⟩
  refine ⟨loads_config, usable, by decide +kernel, by decide +kernel, filesAt_sources, ?_⟩
  exact scans configuredDisk (ofText "src") _ _ _ tidy_root entryAt_sources filesAt_sources
    (ofText "src/b.kt") (by simp)

end DottedExtensions

end Config

end JavaFacts
