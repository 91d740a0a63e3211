import JavaFacts.Disk.Path

/-!
# Following paths

A path leads from name to name to a place of the disk, through directories that let it pass. Links on
the way are followed, at most forty of them; a link at the end can be followed or not.
-/

namespace JavaFacts.Disk

/-- The number of links that can be followed on a path. -/
def greatestLinkCount : Nat := 40

/-- The number of bytes that a name can have. -/
def greatestNameSize : Nat := 255

/-- The number of bytes that a path can have. -/
def greatestPathSize : Nat := 4095

/-- Where a name leads to. -/
inductive Turn where
  | place (location : Location)
  /-- The name is that of a link to a path. -/
  | link (target : Path)
deriving DecidableEq, Repr, Inhabited

/-- Where a name leads to from a place. -/
def turn (root : Entry) (location : Location) (name : Name) : Except FileFault Turn :=
  match root.get? location with
  | some (.directory access entries) =>
    if name.isEmpty then .ok (.place location)
    else
      match access.passing with
      | some fault => .error fault
      | none =>
        if name == [Path.dot] then .ok (.place location)
        else if name == [Path.dot, Path.dot] then .ok (.place location.dropLast)
        else if greatestNameSize < name.length then .error .longName
        else
          match entries.lookup name with
          | none => .error .notFound
          | some (.link target) => .ok (.link target)
          | some _ => .ok (.place (location ++ [name]))
  | _ => .error .notDirectory

/-- Follows names from a place; `links` more links can be followed. -/
def follow (root : Entry) (last : Bool) (links : Nat) (location : Location) (names : List Name) :
    Except FileFault Location :=
  match names with
  | [] => .ok location
  | name :: rest =>
    match turn root location name with
    | .error fault => .error fault
    | .ok (.place next) => follow root last links next rest
    | .ok (.link target) =>
      if rest.isEmpty && !last then .ok (location ++ [name])
      else
        match links with
        | 0 => .error .linkLoop
        | links + 1 =>
          follow root last links (if Path.isAbsolute target then [] else location)
            (Path.names target ++ rest)
termination_by (links, names.length)

/-- The place that a path leads to; `last` tells whether a link at its end is followed. -/
def resolve (disk : Disk) (last : Bool) (path : Path) : Except FileFault Location :=
  if path.contains 0 then .error .zeroInName
  else if path.isEmpty then .error .notFound
  else if greatestPathSize < path.length then .error .longName
  else
    follow disk.root last greatestLinkCount (if Path.isAbsolute path then [] else disk.workplace)
      (Path.names path)

/-- What a path leads to. -/
def entryAt (disk : Disk) (path : Path) : Except FileFault Entry :=
  match resolve disk true path with
  | .error fault => .error fault
  | .ok location =>
    match disk.root.get? location with
    | some entry => .ok entry
    | none => .error .notFound

/-- Whether a path leads to a file. -/
def isFile (disk : Disk) (path : Path) : Bool :=
  match entryAt disk path with
  | .ok (.file _) => true
  | _ => false

/-- The bytes that can be read from an entry. A directory that can be opened has none. -/
def Entry.content : Entry → Except FileFault ByteArray
  | file content => content
  | special content => content
  | directory access _ => .error (access.opening.getD .isDirectory)
  | link _ => .error .linkLoop

/-- The text of the file that a path leads to. -/
def readText (disk : Disk) (path : Path) : Except FileFault String := do
  let content ← (← entryAt disk path).content
  match Text.Utf8.decode content with
  | .ok text => .ok text
  | .error _ => .error .notText

end JavaFacts.Disk
