import JavaFacts.Json.Value
import JavaFacts.Report.Section
import JavaFacts.Text.Blank

/-!
# Configuration

A configuration says what is reported and which files are read. Everything in it can be left out, and
then takes its usual value.
-/

namespace JavaFacts

open JavaFacts.Report

/-- A configuration as it is written. -/
structure Config where
  format : Option Format := none
  sections : Array Section := #[]
  logLevel : Option String := none
  extensions : Array String := #[]
  followLinks : Option Bool := none
deriving DecidableEq, Repr, Inhabited

namespace Config

/-- A text without the dots at its beginning. -/
def withoutDots (text : String) : String := String.ofList (text.toList.dropWhile (· == '.'))

/-! ## What a configuration says -/

/-- How reports are written. -/
def chosenFormat (config : Config) : Format := config.format.getD .text

/-- The sections of a report, each once and in their order. -/
def chosenSections (config : Config) : List Section :=
  if config.sections.isEmpty then Section.all else Section.arranged config.sections.toList

/-- Which messages are logged. -/
def chosenLogLevel (config : Config) : String := config.logLevel.getD "warn"

/-- The extensions of the files that are read, without dots before them. -/
def chosenExtensions (config : Config) : List String :=
  if config.extensions.isEmpty then ["java"] else config.extensions.toList.map withoutDots

/-- Whether links are followed. -/
def followsLinks (config : Config) : Bool := config.followLinks.getD false

/-! ## What a configuration must not say -/

/-- Why a configuration cannot be used. -/
inductive Defect where
  | emptyLogLevel
  | emptyExtension
deriving DecidableEq, Repr, Inhabited

def Defect.message : Defect → String
  | emptyLogLevel => "log_level must not be empty"
  | emptyExtension => "extensions must not contain empty entries"

/-- What is wrong with a configuration, if anything is. -/
def defect? (config : Config) : Option Defect :=
  if config.logLevel.any fun level => (Text.trimBlanks level).isEmpty then some .emptyLogLevel
  else if config.extensions.any fun extension => (withoutDots extension).isEmpty then
    some .emptyExtension
  else none

/-! ## Writing -/

/-- A value that is written as `null` if there is none. -/
def orNull {α : Type} (write : α → Json.Value) : Option α → Json.Value
  | some value => write value
  | none => .null

def toJson (config : Config) : Json.Value :=
  .object [
    ("format", orNull (fun format => .text format.name) config.format),
    ("sections", .list (config.sections.toList.map fun chosen => .text chosen.name)),
    ("log_level", orNull .text config.logLevel),
    ("extensions", .list (config.extensions.toList.map .text)),
    ("follow_links", orNull .bool config.followLinks)]

end Config

end JavaFacts
