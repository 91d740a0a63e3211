import JavaFacts.Command.Arguments
import JavaFacts.Config.Load
import JavaFacts.Disk.Collect
import JavaFacts.Report.Json
import JavaFacts.Report.Text
import JavaFacts.Source.Analysis

/-!
# Scanning

A scan reads the configuration, collects the files at the paths that are given, draws the facts from
each of them and writes a report. If it cannot get as far as the report, it says why and ends with the
status 2; if a file yields no facts, the status is 1.
-/

namespace JavaFacts.Command

open JavaFacts.Report

/-- Why a scan does not get as far as its report. -/
inductive ScanFault where
  | config (fault : Config.LoadFault)
  | choice (fault : ChoiceFault)
  | inaccessible (path : Disk.Path) (fault : FileFault)
  | walk (fault : Disk.WalkFault)
deriving Repr, Inhabited

def ScanFault.message : ScanFault → String
  | config fault => fault.message
  | choice fault => fault.message
  | inaccessible path fault =>
    "cannot access path " ++ Text.Quoted.encodePath path ++ ": " ++ fault.message
  | walk fault => fault.message

/-- The facts of the file at a path, or why there are none. -/
def scanFile (disk : Disk) (path : Disk.Path) : FileReport where
  path := Disk.Path.text path
  outcome :=
    match Disk.readText disk path with
    | .error fault => .error (.unreadable (Disk.Path.text path) fault)
    | .ok source => analyze source

/-- The sections that options choose, each once and in their order. -/
def chosenSections (names : List String) : Except ChoiceFault (List Section) := do
  let chosen ← names.mapM Section.ofName
  return Section.arranged chosen.flatten

/-- The files at a path: the path itself, or the files below it if it leads to a directory. -/
def filesAt (disk : Disk) (wanted : Disk.Wanted) (path : Disk.Path) :
    Except ScanFault (List Disk.Path) :=
  match Disk.entryAt disk path with
  | .error fault => .error (.inaccessible path fault)
  | .ok (.directory _ _) =>
    match Disk.collect disk wanted path with
    | .error fault => .error (.walk fault)
    | .ok files => .ok files
  | .ok _ => .ok [path]

/-- What is to be reported on which files. -/
structure Plan where
  format : Format
  sections : List Section
  files : List Disk.Path
deriving DecidableEq, Repr, Inhabited

/-- A fault of another kind as a fault of a scan. -/
def lift {α ε : Type} (wrap : ε → ScanFault) : Except ε α → Except ScanFault α
  | .ok value => .ok value
  | .error fault => .error (wrap fault)

/-- What arguments ask for on a disk. -/
def plan (disk : Disk) (arguments : ScanArguments) : Except ScanFault Plan := do
  let config ← lift .config
    (Config.load disk arguments.config (Disk.Path.ofLocation disk.workplace))
  let format ← match arguments.format with
    | some name => lift .choice (Format.ofName name)
    | none => pure config.chosenFormat
  let sections ←
    if arguments.sections.isEmpty then pure config.chosenSections
    else lift .choice (chosenSections arguments.sections.toList)
  let wanted : Disk.Wanted := ⟨config.chosenExtensions, config.followsLinks⟩
  let files ← arguments.paths.toList.mapM (filesAt disk wanted)
  return ⟨format, sections, files.flatten⟩

/-- The report on files. -/
def Plan.report (plan : Plan) (color : Bool) (reports : List FileReport) : String :=
  match plan.format with
  | .json => Report.json plan.sections reports
  | .text => Report.text ⟨plan.sections, color, 1 < reports.length⟩ reports

/-- What a program ends with: its status, and what it has written. -/
structure Outcome where
  exitCode : Nat
  output : String
  /-- What is written apart from the output. -/
  messages : String
deriving DecidableEq, Repr, Inhabited

/-- Scans the files of a disk; `color` tells whether styles are used in the report. -/
def scan (disk : Disk) (color : Bool) (arguments : ScanArguments) : Outcome :=
  match plan disk arguments with
  | .error fault => ⟨2, "", "Error: " ++ fault.message ++ "\n"⟩
  | .ok plan =>
    if plan.files.isEmpty then ⟨0, "", "Warning: no files to scan\n"⟩
    else
      let reports := plan.files.map (scanFile disk)
      ⟨if reports.all FileReport.isOk then 0 else 1, plan.report color reports, ""⟩

end JavaFacts.Command
