import JavaFacts.Config.Basic
import JavaFacts.Disk.Resolve
import JavaFacts.Yaml.Decode

/-!
# Loading a configuration

A configuration is written in YAML. It is loaded from a path that is given, or from a file with a
usual name; if there is no such file, everything takes its usual value.
-/

namespace JavaFacts.Config

open JavaFacts.Report

/-! ## Reading -/

/-- A configuration of which some fields have been read; a field can be there without a value. -/
structure Draft where
  format : Option (Option Format) := none
  sections : Option (Array Section) := none
  logLevel : Option (Option String) := none
  extensions : Option (Array String) := none
  followLinks : Option (Option Bool) := none

/-- The configuration of a draft. -/
def Draft.config (draft : Draft) : Config where
  format := draft.format.join
  sections := draft.sections.getD #[]
  logLevel := draft.logLevel.join
  extensions := draft.extensions.getD #[]
  followLinks := draft.followLinks.join

/-- Decodes a format. -/
def decodeFormat : Yaml.Path → Yaml.Decode Format :=
  Yaml.decodeVariant (Format.all.map fun format => (format.name, format))

/-- Decodes a section. -/
def decodeSection : Yaml.Path → Yaml.Decode Section :=
  Yaml.decodeVariant (Section.all.map fun chosen => (chosen.name, chosen))

/-- The fields of a configuration. -/
def fields : List (Yaml.Field Draft) := [
  { name := "format", isSet := (·.format.isSome),
    decode := fun path draft =>
      return { draft with format := some (← Yaml.decodeOption (decodeFormat path)) } },
  { name := "sections", isSet := (·.sections.isSome),
    decode := fun path draft =>
      return { draft with sections := some (← Yaml.decodeSequence decodeSection path) } },
  { name := "log_level", isSet := (·.logLevel.isSome),
    decode := fun path draft =>
      return { draft with
        logLevel := some (← Yaml.decodeOption (Yaml.decodeText "a string" path)) } },
  { name := "extensions", isSet := (·.extensions.isSome),
    decode := fun path draft =>
      return { draft with
        extensions := some (← Yaml.decodeSequence (Yaml.decodeText "a string") path) } },
  { name := "follow_links", isSet := (·.followLinks.isSome),
    decode := fun path draft =>
      return { draft with followLinks := some (← Yaml.decodeOption (Yaml.decodeBool path)) } }]

/-- The configuration that a text holds. -/
def ofYaml (text : String) : Except Yaml.DecodeFault Config := do
  let draft ← Yaml.decodeWhole (Yaml.decodeRecord "struct ScanConfig" fields {}) text
  return draft.config

/-! ## Loading -/

/-- Why there is no configuration. -/
inductive LoadFault where
  | unreadable (path : Disk.Path) (fault : FileFault)
  | malformed (path : Disk.Path) (fault : Yaml.DecodeFault)
  | unusable (defect : Defect)
deriving Repr, Inhabited

def LoadFault.message : LoadFault → String
  | unreadable path fault =>
    "cannot load config " ++ Disk.Path.text path ++ ": " ++ fault.message
  | malformed path fault =>
    "cannot load config " ++ Disk.Path.text path ++ ": " ++ fault.message
  | unusable defect => defect.message

/-- The usual names of configurations. -/
def usualNames : List Disk.Name :=
  ["methodscan.yaml", ".methodscan.yaml"].map Disk.Path.ofText

/-- The path to a configuration with a usual name in a directory. -/
def discover? (disk : Disk) (directory : Disk.Path) : Option Disk.Path :=
  (usualNames.map (Disk.Path.join directory)).find? (Disk.isFile disk)

/-- The configuration at a path. -/
def readFile (disk : Disk) (path : Disk.Path) : Except LoadFault Config :=
  match Disk.readText disk path with
  | .error fault => .error (.unreadable path fault)
  | .ok text =>
    match ofYaml text with
    | .error fault => .error (.malformed path fault)
    | .ok config => .ok config

/-- The configuration at a given path, or else that of a directory. -/
def load (disk : Disk) (given : Option Disk.Path) (directory : Disk.Path) :
    Except LoadFault Config :=
  let path? := match given with
    | some path => some path
    | none => discover? disk directory
  let read := match path? with
    | some path => readFile disk path
    | none => .ok {}
  match read with
  | .error fault => .error fault
  | .ok config =>
    match config.defect? with
    | some defect => .error (.unusable defect)
    | none => .ok config

end JavaFacts.Config
