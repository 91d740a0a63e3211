import JavaFacts.Source.Fault
import JavaFacts.Source.LineTable
import JavaFacts.Syntax.Node

/-!
# Source units

A source unit is a text with a tree of it. The spans of the tree are expected to lie in the text; a
span that does not, or that cuts a character, is a defect of the tree.
-/

namespace JavaFacts

/-- A text with a tree of it and its lines. -/
structure SourceUnit where
  source : String
  root : Node
  lines : LineTable
deriving Inhabited

namespace SourceUnit

/-- The unit of a text and a tree. -/
def ofTree (source : String) (root : Node) : SourceUnit := ⟨source, root, .ofText source⟩

/-- The line of an offset. -/
def lineOf (unit : SourceUnit) (offset : Nat) : Nat := unit.lines.lineOf offset

def lineCount (unit : SourceUnit) : Nat := unit.lines.lineCount

/-- The number of offsets. They are words, and every byte of the source has one. -/
def offsetCount (unit : SourceUnit) : Nat := max wordCount (unit.source.utf8ByteSize + 1)

/-- The offset where a span stops. A span that goes on behind all offsets wraps around. -/
def stopOf (unit : SourceUnit) (span : Span) : Nat := span.stop % unit.offsetCount

theorem stopOf_of_word {span : Span} (isWord : span.stop < wordCount) (unit : SourceUnit) :
    unit.stopOf span = span.stop :=
  Nat.mod_eq_of_lt (Nat.lt_of_lt_of_le isWord (Nat.le_max_left _ _))

theorem stopOf_of_inside {unit : SourceUnit} {span : Span}
    (inside : span.stop ≤ unit.source.utf8ByteSize) : unit.stopOf span = span.stop :=
  Nat.mod_eq_of_lt (Nat.lt_of_lt_of_le (Nat.lt_succ_of_le inside) (Nat.le_max_right _ _))

/-- A span of words that goes on behind all words stops before it starts. -/
theorem stopOf_lt_start {unit : SourceUnit} {span : Span}
    (ofWords : unit.source.utf8ByteSize < wordCount) (start : span.start < wordCount)
    (length : span.length < wordCount) (behind : wordCount ≤ span.stop) :
    unit.stopOf span < span.start := by
  have count : unit.offsetCount = wordCount := Nat.max_eq_left ofWords
  have once : span.stop < wordCount + wordCount := Nat.add_lt_add start length
  rw [stopOf, count, Nat.mod_eq_sub_mod behind, Nat.mod_eq_of_lt (by omega)]
  simp only [Span.stop] at *
  omega

/--
The text that a span covers. A span that goes on behind all offsets covers none, like every other
that goes on behind the end of the source.
-/
def slice (unit : SourceUnit) (span : Span) : Except TreeDefect String :=
  match unit.source.pos? ⟨span.start⟩, unit.source.pos? ⟨span.stop⟩ with
  | some start, some stop => .ok (unit.source.extract start stop)
  | _, _ => .error (.outside span unit.source.utf8ByteSize)

/-- The text of a node. -/
def text (unit : SourceUnit) (node : Node) : Except TreeDefect String := unit.slice node.span

end SourceUnit

end JavaFacts
