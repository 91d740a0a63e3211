import JavaFacts.Disk.Resolve

/-!
# Collecting files

The files below a directory are collected in the order of their names, directory by directory. Every
directory is opened by its path, and the walk ends at the first one for which this fails. Hidden
directories are passed over, and so are links unless they are to be followed. A link that is followed
must not lead to a directory that is being walked already.
-/

namespace JavaFacts.Disk

/-- Why a directory cannot be walked. -/
inductive WalkFault where
  | unreadable (path : Path) (fault : FileFault)
  /-- A directory fails in the course of reading it; no path is told. -/
  | broken (fault : FileFault)
  /-- A link leads to a directory around it. -/
  | loop (path ancestor : Path)
deriving DecidableEq, Repr, Inhabited

def WalkFault.message : WalkFault → String
  | unreadable path fault => "IO error for operation on " ++ Path.text path ++ ": " ++ fault.message
  | broken fault => fault.message
  | loop path ancestor =>
    "File system loop found: " ++ Path.text path ++ " points to an ancestor " ++ Path.text ancestor

/-- What is collected. -/
structure Wanted where
  /-- The extensions of files. -/
  extensions : List String
  followLinks : Bool
deriving DecidableEq, Repr, Inhabited

/-- Whether a file with a name is wanted. -/
def Wanted.matches (wanted : Wanted) (name : Name) : Bool :=
  wanted.extensions.contains (Path.extension name)

/-- What an entry of a directory is to a walk. -/
inductive Found where
  | file
  | directory
  | other
deriving DecidableEq, Repr, Inhabited

/-- What the link at a path leads to; `around` are the directories around it. A directory is opened,
so that it can be told from them. -/
def followLink (disk : Disk) (around : List Path) (path : Path) : Except WalkFault Found :=
  match resolve disk true path with
  | .error fault => .error (.unreadable path fault)
  | .ok location =>
    match disk.root.get? location with
    | some (.directory access _) =>
      match access.opening with
      | some fault => .error (.broken fault)
      | none =>
        match around.find? fun known => (resolve disk true known).toOption == some location with
        | some ancestor => .error (.loop path ancestor)
        | none => .ok .directory
    | some (.file _) => .ok .file
    | _ => .ok .other

/-- What an entry is: links that are followed are what they lead to. -/
def find (disk : Disk) (wanted : Wanted) (around : List Path) (path : Path) :
    Entry → Except WalkFault Found
  | .file _ => .ok .file
  | .directory _ _ => .ok .directory
  | .link _ => if wanted.followLinks then followLink disk around path else .ok .other
  | .special _ => .ok .other

/-- Entries in the order of their names. -/
def sortedEntries (entries : List (Name × Entry)) : List (Name × Entry) :=
  entries.mergeSort fun left right => left.1 ≤ right.1

/-- The entries of the directory at a path, in the order of their names. -/
def listing (disk : Disk) (path : Path) : Except WalkFault (List (Name × Entry)) :=
  match entryAt disk path with
  | .error fault => .error (.unreadable path fault)
  | .ok (.directory access entries) =>
    match access.opening, access.listing with
    | some fault, _ => .error (.unreadable path fault)
    | none, some fault => .error (.broken fault)
    | none, none => .ok (sortedEntries entries)
  | .ok _ => .error (.unreadable path .notDirectory)

/-- The wanted files below the directory at a path; `around` are the directories around it. A path
becomes longer with every name, and so a walk that goes too deep fails for it. -/
def collectBelow (disk : Disk) (wanted : Wanted) :
    (depth : Nat) → (around : List Path) → Path → Except WalkFault (List Path)
  | 0, _, path => .error (.unreadable path .longName)
  | depth + 1, around, path => do
    let parts ← (← listing disk path).mapM fun (name, entry) => do
      let inner := Path.join path name
      match ← find disk wanted (path :: around) inner entry with
      | .file => return if wanted.matches name then [inner] else []
      | .directory =>
        if Path.isHidden name then return []
        else collectBelow disk wanted depth (path :: around) inner
      | .other => return []
    return parts.flatten

/-- Whether a link stands at a path. -/
def isLink (disk : Disk) (path : Path) : Bool :=
  match resolve disk false path with
  | .error _ => false
  | .ok location =>
    match disk.root.get? location with
    | some (.link _) => true
    | _ => false

/-- The wanted files below the directory that a path leads to. -/
def collect (disk : Disk) (wanted : Wanted) (path : Path) : Except WalkFault (List Path) := do
  if wanted.followLinks && isLink disk path then
    let _ ← followLink disk [] path
  collectBelow disk wanted (greatestPathSize + 1) [] path

end JavaFacts.Disk
