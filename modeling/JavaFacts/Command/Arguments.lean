import JavaFacts.Disk.Path

/-!
# Arguments of the command line

The command `scan` takes paths and options. An option with a value has it in the same argument or in
the next one; short options can stand together; after `--` everything is a path. What an argument says
is only taken up when the next one begins, so that an argument that nobody knows is reported first.
-/

namespace JavaFacts.Command

/-- What the command `scan` is asked for. -/
structure ScanArguments where
  paths : Array Disk.Path := #[]
  format : Option String := none
  sections : Array String := #[]
  config : Option Disk.Path := none
  verbose : Bool := false
deriving DecidableEq, Repr, Inhabited

/-- Why arguments ask for no scan. -/
inductive Usage where
  | help
  | version
  | nothingGiven
  | unknownCommand
  | unknownArgument
  | repeatedOption
  | badValue
  | neededNoValue
  | noPath
deriving DecidableEq, Repr, Inhabited

namespace Usage

/-- Whether the user asked for what is shown. -/
def isAnswer : Usage → Bool
  | help => true
  | version => true
  | _ => false

/-- The status with which the program ends. -/
def exitCode (usage : Usage) : Nat := if usage.isAnswer then 0 else 2

end Usage

/-- An option that has a value. -/
inductive ValueOption where
  | format
  | sections
  | config
deriving DecidableEq, Repr, Inhabited

/-- An option. -/
inductive Choice where
  | valued (option : ValueOption)
  | verbose
  | help
deriving DecidableEq, Repr, Inhabited

/-- The option with a long name. -/
def longChoice? : String → Option Choice
  | "format" => some (.valued .format)
  | "section" => some (.valued .sections)
  | "config" => some (.valued .config)
  | "verbose" => some .verbose
  | "help" => some .help
  | _ => none

/-- The option with a short name. -/
def shortChoice? : Char → Option Choice
  | 'f' => some (.valued .format)
  | 's' => some (.valued .sections)
  | 'c' => some (.valued .config)
  | 'v' => some .verbose
  | 'h' => some .help
  | _ => none

/-! ## The form of an argument -/

/-- What an argument looks like. -/
inductive Form where
  /-- The mark after which everything is a path. -/
  | escape
  | long (name : String) (value : Option String)
  | short (letters : List Char)
  | word
deriving DecidableEq, Repr, Inhabited

def Form.of (argument : String) : Form :=
  match argument.toList with
  | ['-', '-'] => .escape
  | '-' :: '-' :: rest =>
    let name := String.ofList (rest.takeWhile (· != '='))
    match rest.dropWhile (· != '=') with
    | [] => .long name none
    | _ :: value => .long name (some (String.ofList value))
  | '-' :: letter :: rest => .short (letter :: rest)
  | _ => .word

/-! ## Taking up arguments -/

/-- An argument that has not been taken up. -/
inductive Pending where
  | nothing
  | paths (values : Array String)
  | option (option : ValueOption) (value : Option String)
deriving DecidableEq, Repr, Inhabited

/-- Arguments of which some have been read. -/
structure Progress where
  arguments : ScanArguments := {}
  pending : Pending := .nothing
  /-- Whether the next argument is the value of an option. -/
  awaiting : Bool := false
deriving DecidableEq, Repr, Inhabited

namespace ScanArguments

/-- Takes up the value of an option. -/
def set (arguments : ScanArguments) (option : ValueOption) (value : String) :
    Except Usage ScanArguments :=
  match option with
  | .format =>
    if arguments.format.isSome then .error .repeatedOption
    else .ok { arguments with format := some value }
  | .sections => .ok { arguments with sections := arguments.sections.push value }
  | .config =>
    if arguments.config.isSome then .error .repeatedOption
    else if value.isEmpty then .error .badValue
    else .ok { arguments with config := some (Disk.Path.ofText value) }

/-- Takes up paths, none of which can be empty. -/
def addPaths (arguments : ScanArguments) (paths : Array String) : Except Usage ScanArguments :=
  if paths.any String.isEmpty then .error .badValue
  else .ok { arguments with paths := arguments.paths ++ paths.map Disk.Path.ofText }

end ScanArguments

namespace Progress

/-- Takes up what is pending. -/
def settle (progress : Progress) : Except Usage Progress :=
  match progress.pending with
  | .nothing => .ok progress
  | .paths values => do
    return { progress with arguments := ← progress.arguments.addPaths values, pending := .nothing }
  | .option _ none => .error .badValue
  | .option option (some value) => do
    return { progress with arguments := ← progress.arguments.set option value, pending := .nothing }

/-- Reads an option that has no value. -/
def readFlag (progress : Progress) (choice : Choice) : Except Usage Progress := do
  let progress ← progress.settle
  match choice with
  | .help => .error .help
  | _ =>
    if progress.arguments.verbose then .error .repeatedOption
    else return { progress with arguments := { progress.arguments with verbose := true } }

/-- Reads an option whose value is in the same argument, if it is anywhere. -/
def readValued (progress : Progress) (option : ValueOption) (value : Option String) :
    Except Usage Progress := do
  let progress ← progress.settle
  match value with
  | some value =>
    return { progress with arguments := ← progress.arguments.set option value, awaiting := false }
  | none => return { progress with pending := .option option none, awaiting := true }

/-- Reads a long option. -/
def readLong (progress : Progress) (name : String) (value : Option String) :
    Except Usage Progress :=
  match longChoice? name with
  | none => .error .unknownArgument
  | some (.valued option) => progress.readValued option value
  | some choice =>
    if value.isSome then .error .neededNoValue
    else ({ progress with awaiting := false } : Progress).readFlag choice

/-- The value that is written after the letter of an option. -/
def attachedValue : List Char → Option String
  | [] => none
  | '=' :: rest => some (String.ofList rest)
  | rest => some (String.ofList rest)

/-- Reads short options that stand together. -/
def readShort (progress : Progress) : List Char → Except Usage Progress
  | [] => .ok { progress with awaiting := false }
  | letter :: rest =>
    match shortChoice? letter with
    | none => .error .unknownArgument
    | some (.valued option) => progress.readValued option (attachedValue rest)
    | some choice => do (← progress.readFlag choice).readShort rest

/-- Reads a path. -/
def readPath (progress : Progress) (path : String) : Except Usage Progress := do
  match progress.pending with
  | .paths values => return { progress with pending := .paths (values.push path), awaiting := false }
  | _ => return { ← progress.settle with pending := .paths #[path], awaiting := false }

/-- Reads an argument that is no option: the value of an option, or a path. -/
def readWord (progress : Progress) (word : String) : Except Usage Progress :=
  match progress.awaiting, progress.pending with
  | true, .option option _ =>
    .ok { progress with pending := .option option (some word), awaiting := false }
  | _, _ => progress.readPath word

end Progress

/-- Reads arguments; `escaped` tells whether all of them are paths. -/
def readArguments (escaped : Bool) (progress : Progress) : List String → Except Usage Progress
  | [] => progress.settle
  | argument :: rest =>
    if escaped then do readArguments escaped (← progress.readPath argument) rest
    else
      match Form.of argument with
      | .escape => readArguments true progress rest
      | .long name value => do readArguments escaped (← progress.readLong name value) rest
      | .short letters => do readArguments escaped (← progress.readShort letters) rest
      | .word => do readArguments escaped (← progress.readWord argument) rest

/-- What the arguments of `scan` ask for. -/
def ScanArguments.parse (arguments : List String) : Except Usage ScanArguments := do
  let progress ← readArguments false {} arguments
  if progress.arguments.paths.isEmpty then .error .noPath else return progress.arguments

/-! ## The whole command line -/

/-- What short options before a command ask for. -/
def usageOfLetter : Char → Usage
  | 'h' => .help
  | 'V' => .version
  | _ => .unknownArgument

/-- What a long option before a command asks for. -/
def usageOfLong (name : String) (value : Option String) : Usage :=
  match name with
  | "help" => if value.isSome then .neededNoValue else .help
  | "version" => if value.isSome then .neededNoValue else .version
  | _ => .unknownArgument

/-- Help for a command, or for none. -/
def usageOfHelp : List String → Usage
  | [] => .help
  | [name] => if name == "scan" || name == "help" then .help else .unknownCommand
  | _ => .unknownCommand

/-- What the arguments after `--` ask for where a command is missing. -/
def usageOfEscaped : List String → Usage
  | [] => .nothingGiven
  | name :: _ => if name == "scan" || name == "help" then .unknownArgument else .unknownCommand

/-- What a command line asks for. -/
def parse : List String → Except Usage ScanArguments
  | [] => .error .nothingGiven
  | "scan" :: rest => ScanArguments.parse rest
  | "help" :: rest => .error (usageOfHelp rest)
  | argument :: rest =>
    match Form.of argument with
    | .escape => .error (usageOfEscaped rest)
    | .long name value => .error (usageOfLong name value)
    | .short (letter :: _) => .error (usageOfLetter letter)
    | _ => .error .unknownCommand

end JavaFacts.Command
