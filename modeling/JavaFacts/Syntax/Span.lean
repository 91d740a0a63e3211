/-!
# Spans

A span is a stretch of a text, given by its first byte and its length in bytes. Both are words of 64
bits, but where the span stops may be too large for one.
-/

namespace JavaFacts

/-- The number of words of 64 bits. -/
def wordCount : Nat := UInt64.size

/-- A stretch of a text, in bytes. -/
structure Span where
  start : Nat
  length : Nat
deriving DecidableEq, Repr, Inhabited

namespace Span

/-- The span between two offsets; it is empty if they are in the wrong order. -/
def ofBounds (start stop : Nat) : Span := ⟨start, stop - start⟩

/-- The number of the byte after the last one, which need not be a word. -/
def stop (span : Span) : Nat := span.start + span.length

/-- The span as its two offsets; one that stops behind all words wraps around. -/
def describe (span : Span) : String :=
  toString span.start ++ ".." ++ toString (span.stop % wordCount)

end Span

end JavaFacts
