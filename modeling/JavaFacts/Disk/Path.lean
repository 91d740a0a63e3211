import JavaFacts.Disk.Basic

/-!
# Paths

A path is made of names that are divided by slashes. It is absolute if it begins with one.
-/

namespace JavaFacts.Disk

open JavaFacts.Text

namespace Path

/-- The byte that divides names. -/
def slash : UInt8 := 47

/-- The byte before an extension. -/
def dot : UInt8 := 46

/-- The path that is written as a text. -/
def ofText (text : String) : Path := Utf8.encode text

/-- The text that a path is shown as. -/
def text (path : Path) : String := Utf8.shown path

theorem text_ofText (path : String) : text (ofText path) = path := Utf8.shown_encode path

/-- Whether a path begins at the root. -/
def isAbsolute (path : Path) : Bool := path.head? == some slash

/-- Whether a path ends with a slash, so that it can only lead to a directory. -/
def endsWithSlash (path : Path) : Bool := path.getLast? == some slash

/-- The names of a path. A slash at its end counts as an empty name, which leads from a directory to
itself. -/
def names (path : Path) : List Name :=
  ((path.splitOn slash).filter fun name => !name.isEmpty) ++ if endsWithSlash path then [[]] else []

/-- The path to a name in the directory at a path. -/
def join (directory : Path) (name : Name) : Path :=
  if isAbsolute name || directory.isEmpty then name
  else if endsWithSlash directory then directory ++ name
  else directory ++ slash :: name

/-- The absolute path to a place. -/
def ofLocation (location : Location) : Path := slash :: [slash].intercalate location

/-- What stands after the last dot of a name, unless nothing stands before it. -/
def ending? (name : Name) : Option (List UInt8) :=
  let reversed := name.reverse
  let before := (reversed.dropWhile (· != dot)).drop 1
  if name == [dot, dot] || before.isEmpty then none
  else some (reversed.takeWhile (· != dot)).reverse

/-- The extension of a name: what stands after its last dot. It is empty if there is nothing of that
kind, or if it is no text. -/
def extension (name : Name) : String := ((ending? name).bind Utf8.textOf?).getD ""

/-- Whether a name is hidden. -/
def isHidden (name : Name) : Bool := name.head? == some dot

end Path

end JavaFacts.Disk
