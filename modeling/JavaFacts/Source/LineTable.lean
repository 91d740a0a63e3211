import JavaFacts.Text.Boundaries

/-!
# Lines

A line ends with a line feed, with a carriage return, or with both in this order. A line table keeps
the offsets at which lines start, so that the line of an offset is found by halving.
-/

namespace JavaFacts

/-- The lines of a text. -/
structure LineTable where
  /-- The offsets at which lines start, in increasing order. -/
  starts : Array Nat
  /-- The number of bytes of the text. -/
  size : Nat
deriving DecidableEq, Inhabited

namespace LineTable

/-- Adds the starts of the lines after the first one, for bytes that begin at an offset. -/
def collect : List UInt8 → (offset : Nat) → (starts : Array Nat) → Array Nat
  | [], _, starts => starts
  | 13 :: 10 :: rest, offset, starts => collect rest (offset + 2) (starts.push (offset + 2))
  | byte :: rest, offset, starts =>
    if byte = 10 || byte = 13 then collect rest (offset + 1) (starts.push (offset + 1))
    else collect rest (offset + 1) starts

/-- The lines of a text. -/
def ofText (text : String) : LineTable :=
  ⟨collect text.toUTF8.toList 0 #[0], text.utf8ByteSize⟩

/-- The line of an offset, counted from one; past the end it is the last line. -/
def lineOf (table : LineTable) (offset : Nat) : Nat :=
  Text.Boundaries.countUpTo table.starts (min offset table.size)

/-- The number of lines. -/
def lineCount (table : LineTable) : Nat := table.starts.size

end LineTable

end JavaFacts
