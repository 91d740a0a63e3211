import JavaFacts.Source.Fault

/-!
# Disks

A disk is a tree of directories, files and symbolic links, with a directory in which relative paths
begin. Names and paths are bytes and need not be texts. Files can be unreadable, and directories can
refuse to be opened, to be read to the end, or to let anything be reached through them.
-/

namespace JavaFacts

namespace Disk

/-- The name of an entry of a directory, in bytes. -/
abbrev Name := List UInt8

/-- A path, in bytes. -/
abbrev Path := List UInt8

/-- What a directory refuses, and why. -/
structure Access where
  /-- Why the directory cannot be opened. -/
  opening : Option FileFault := none
  /-- Why its entries cannot be read to the end. -/
  listing : Option FileFault := none
  /-- Why nothing can be reached through it. -/
  passing : Option FileFault := none
deriving DecidableEq, Repr, Inhabited

/-- What stands at a place of a disk. -/
inductive Entry where
  /-- A file, with its content or why it cannot be read. -/
  | file (content : Except FileFault ByteArray)
  | directory (access : Access) (entries : List (Name × Entry))
  /-- A symbolic link to a path. -/
  | link (target : Path)
  /-- Something else that can be read like a file, such as a pipe. -/
  | special (content : Except FileFault ByteArray)
deriving Inhabited

/-- A place of a disk: the names that lead to it from the root. -/
abbrev Location := List Name

namespace Entry

/-- The directory without entries, which refuses nothing. -/
def empty : Entry := .directory {} []

/-- The entry with a name. -/
def child? (entry : Entry) (name : Name) : Option Entry :=
  match entry with
  | directory _ entries => entries.lookup name
  | _ => none

/-- The entry at a place below this one. -/
def get? (entry : Entry) : Location → Option Entry
  | [] => some entry
  | name :: rest =>
    match entry.child? name with
    | some child => child.get? rest
    | none => none

/-- Sets an entry of a directory. A new entry comes last. -/
def setIn (name : Name) (new : Entry) : List (Name × Entry) → List (Name × Entry)
  | [] => [(name, new)]
  | (known, entry) :: entries =>
    if known == name then (name, new) :: entries else (known, entry) :: setIn name new entries

/-- What a directory refuses, and its entries. What is no directory is taken for an empty one. -/
def opened : Entry → Access × List (Name × Entry)
  | directory access entries => (access, entries)
  | _ => ({}, [])

/-- Sets the entry at a place. What is missing on the way becomes a directory. -/
def insert (entry : Entry) : Location → Entry → Entry
  | [], new => new
  | name :: rest, new =>
    let (access, entries) := entry.opened
    let child := (entries.lookup name).getD empty
    .directory access (setIn name (child.insert rest new) entries)

end Entry

end Disk

/-- A disk. -/
structure Disk where
  root : Disk.Entry
  /-- Where relative paths begin. -/
  workplace : Disk.Location
deriving Inhabited

end JavaFacts
