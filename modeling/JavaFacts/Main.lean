import JavaFacts.Command.Scan

/-!
# The command line

The command line reads the parts of the disk that a scan asks for, and runs the scan on them. What
the system refuses to read is noted on the disk as refused, so that the scan can tell.
-/

namespace JavaFacts.CommandLine

open Disk

/-! ## Errors of the system -/

/-- The number of an error. Some functions give it with the opposite sign. -/
def errorNumber (code : UInt32) : UInt32 := min code (0 - code)

/-- The fault with a number. -/
def faultOfCode (code : UInt32) (words : String) : FileFault :=
  match errorNumber code with
  | 2 => .notFound
  | 13 => .denied
  | 20 => .notDirectory
  | 21 => .isDirectory
  | 36 => .longName
  | 40 => .linkLoop
  | code => .described (words ++ " (os error " ++ toString code ++ ")")

/-- The fault that an error stands for. -/
def faultOf : IO.Error → FileFault
  | .noFileOrDirectory _ code words | .permissionDenied _ code words
  | .inappropriateType _ code words | .invalidArgument _ code words
  | .resourceExhausted _ code words | .noSuchThing _ code words
  | .alreadyExists _ code words | .interrupted _ code words => faultOfCode code words
  | .otherError code words | .resourceBusy code words | .resourceVanished code words
  | .unsupportedOperation code words | .hardwareFault code words
  | .unsatisfiedConstraints code words | .illegalOperation code words
  | .protocolError code words | .timeExpired code words => faultOfCode code words
  | error => .described error.toString

/-- What comes of an attempt, or why nothing does. -/
def attempt {α : Type} (action : IO α) : IO (Except FileFault α) :=
  try return .ok (← action) catch error => return .error (faultOf error)

/-! ## Reading the disk -/

/-- The part of the disk that has been read, and the paths of the trees that it holds. -/
structure Snapshot where
  root : Entry := .empty
  seen : List Path := []
  /-- The number of links that lead nowhere. -/
  deadLinks : Nat := 0

/-- A step that reads a part of the disk. -/
abbrev Reading := StateT Snapshot IO

/-- Notes what stands at an absolute path without links. -/
def note (path : Path) (entry : Entry) : Reading Unit :=
  modify fun snapshot => { snapshot with root := snapshot.root.insert (Path.names path) entry }

/-- Notes what stands at an absolute path without links, unless it is known. -/
def noteNew (path : Path) (entry : Entry) : Reading Unit := do
  if ((← get).root.get? (Path.names path)).isNone then note path entry

/-- Notes what the directory at a path refuses. -/
def noteAccess (path : Path) (change : Access → Access) : Reading Unit := do
  let (access, entries) := (((← get).root.get? (Path.names path)).getD .empty).opened
  note path (.directory (change access) entries)

/-- Notes a link for which following it fails. It leads through a directory where that happens. -/
def noteDeadLink (path : Path) (fault : FileFault) : Reading Unit := do
  let directory := [Path.ofText "nowhere", Path.ofText (toString (← get).deadLinks)]
  modify fun snapshot => { snapshot with deadLinks := snapshot.deadLinks + 1 }
  note (Path.ofLocation directory) (.directory { passing := some fault } [])
  note path (.link (Path.ofLocation (directory ++ [Path.ofText "gone"])))

/-- The path without links that a path ends up at. -/
def target (path : Path) : IO (Except FileFault Path) :=
  attempt do return Path.ofText (← IO.FS.realPath (Path.text path)).toString

/-- What stands at a name in a directory. -/
def kindOf (directory : Path) (name : Name) : IO (Except FileFault IO.FS.FileType) :=
  attempt do
    return (← ((← IO.FS.realPath (Path.text directory)) / Path.text name).symlinkMetadata).type

/-- The content of a file. -/
def contentOf (path : Path) : IO (Except FileFault ByteArray) :=
  attempt (IO.FS.readBinFile (Path.text path))

/-- The names in a directory. -/
def namesIn (path : Path) : IO (Except FileFault (Array Name)) :=
  attempt do
    let entries ← (← IO.FS.realPath (Path.text path)).readDir
    return entries.map fun entry => Path.ofText entry.fileName

/-- Whether nothing that exists is reached; otherwise a directory refuses to let anything pass. -/
def isMissing (fault : FileFault) : Bool :=
  fault == .notFound || fault == .notDirectory || fault == .longName

/-- An entry that cannot be looked at. It is known by its name alone: with an ending it is taken for a
file, and without one for a directory. -/
def unseen (name : Name) (fault : FileFault) : Entry :=
  if (Path.ending? name).isSome then .file (.error fault)
  else .directory { opening := some fault } []

mutual

/-- Reads an entry of a directory and all that is below it; links are followed if asked for. -/
partial def readEntry (follow : Bool) (directory : Path) (name : Name) : Reading Unit := do
  let path := Path.join directory name
  match ← kindOf directory name with
  | .error fault =>
    note path (unseen name fault)
    if !isMissing fault then
      noteAccess directory fun access => { access with passing := some fault }
  | .ok .dir => readTree follow path
  | .ok .file => note path (.file (← contentOf path))
  | .ok .other => noteNew path (.special (.error (.described "not read")))
  | .ok .symlink =>
    match ← target path with
    | .error fault => noteDeadLink path fault
    | .ok leadsTo =>
      note path (.link leadsTo)
      if follow then readTree follow leadsTo

/-- Reads what stands at an absolute path without links, and all that is below it. -/
partial def readTree (follow : Bool) (path : Path) : Reading Unit := do
  if !(← get).seen.contains path then
    modify fun snapshot => { snapshot with seen := path :: snapshot.seen }
    let kind ← attempt do return (← (← IO.FS.realPath (Path.text path)).metadata).type
    match kind with
    | .ok .dir =>
      noteNew path .empty
      match ← namesIn path with
      | .error fault => noteAccess path fun access => { access with opening := some fault }
      | .ok names => for name in names do readEntry follow path name
    | .ok .file => note path (.file (← contentOf path))
    | .ok _ => note path (.special (← contentOf path))
    | .error fault => if !isMissing fault then note path (.file (.error fault))

end

/-- Reads the entries along names from a directory; gives the path without links they lead to. -/
def readAlong (directory : Path) : List Name → Reading (Option Path)
  | [] => return some directory
  | name :: rest => do
    if name.isEmpty || name == [Path.dot] then readAlong directory rest
    else if name == [Path.dot, Path.dot] then
      readAlong (Path.ofLocation (Path.names directory).dropLast) rest
    else
      let path := Path.join directory name
      match ← kindOf directory name with
      | .error fault =>
        if !isMissing fault then
          noteAccess directory fun access => { access with passing := some fault }
        return none
      | .ok .dir =>
        noteNew path .empty
        readAlong path rest
      | .ok .symlink =>
        match ← target path with
        | .error fault =>
          noteDeadLink path fault
          return none
        | .ok leadsTo =>
          note path (.link leadsTo)
          readAlong leadsTo rest
      | .ok .file =>
        note path (.file (← contentOf path))
        readAlong path rest
      | .ok .other =>
        note path (.special (← contentOf path))
        readAlong path rest

/-- Reads what a path leads to, and all that is below it if asked for. -/
def readPath (workplace : Path) (below follow : Bool) (path : Path) : Reading Unit := do
  let start := if Path.isAbsolute path then [Path.slash] else workplace
  match ← readAlong start (Path.names path) with
  | some reached => if below then readTree follow reached else noteNew reached .empty
  | none => pure ()

/-- Reads the parts of the disk that a scan asks for: first its configuration, then the paths. -/
def readDisk (arguments : Command.ScanArguments) : IO Disk := do
  let workplace := Path.ofText (← IO.FS.realPath (← IO.currentDir)).toString
  let location := Path.names workplace
  let reading : Reading Unit := do
    noteNew workplace .empty
    let configs := match arguments.config with
      | some path => [path]
      | none => Config.usualNames
    for path in configs do readPath workplace false false path
    let follow := match Config.load ⟨(← get).root, location⟩ arguments.config workplace with
      | .ok config => config.followsLinks
      | .error _ => false
    for path in arguments.paths do readPath workplace true follow path
  let (_, snapshot) ← reading.run {}
  return ⟨snapshot.root, location⟩

/-- What is said on how the program is used. -/
def usageText : String :=
  "Usage: methodscan scan [OPTIONS] <PATHS>...\n\nOptions:\n" ++
    "  -f, --format <FORMAT>    text or json\n" ++
    "  -s, --section <SECTION>  declarations, signatures, receivers or all\n" ++
    "  -c, --config <CONFIG>    path to the configuration\n" ++
    "  -v, --verbose            log more\n" ++
    "  -h, --help               show this\n"

end JavaFacts.CommandLine

open JavaFacts in
def main (arguments : List String) : IO UInt32 := do
  match Command.parse arguments with
  | .error usage =>
    if usage == .version then IO.println "methodscan 0.1.0"
    else if usage.isAnswer then IO.print CommandLine.usageText
    else IO.eprint CommandLine.usageText
    return usage.exitCode.toUInt32
  | .ok arguments =>
    match ← CommandLine.attempt (CommandLine.readDisk arguments) with
    | .error fault =>
      IO.eprintln ("Error: " ++ fault.message)
      return 2
    | .ok disk =>
      let outcome := Command.scan disk (← (← IO.getStdout).isTty) arguments
      IO.print outcome.output
      IO.eprint outcome.messages
      return outcome.exitCode.toUInt32
