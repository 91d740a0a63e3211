import JavaFacts.Grammar.Basic
import JavaFacts.Grammar.IndexSet
import Std.Data.HashMap

/-!
# Character classes

A grammar names finitely many sets of characters. Characters that belong to the same sets need not
be told apart, so scanning works with classes of them. The character with number zero has a class of
its own.
-/

namespace JavaFacts.Grammar

open JavaFacts.Text

/-- The division of all characters into the classes that a grammar tells apart. -/
structure Alphabet where
  /-- The first code points of the intervals into which the code points are cut. -/
  bounds : Array Nat
  /-- The class of every interval. -/
  classes : Array Nat
  /-- The number of classes. -/
  count : Nat
deriving Inhabited

namespace Alphabet

/-- The number of code points. -/
def codePointCount : Nat := 0x110000

/-- The class of a code point. -/
def classOf (alphabet : Alphabet) (code : Nat) : Nat :=
  alphabet.classes.getD (Boundaries.countUpTo alphabet.bounds code - 1) 0

/-- The class of the character with number zero. -/
def zeroClass (alphabet : Alphabet) : Nat := alphabet.classOf 0

/-- The class of the last code point. -/
def lastClass (alphabet : Alphabet) : Nat := alphabet.classOf (codePointCount - 1)

/-- Keeps the first of equal neighbours. -/
def dropRepeated : List Nat → List Nat
  | first :: second :: rest =>
    if first = second then dropRepeated (second :: rest)
    else first :: dropRepeated (second :: rest)
  | short => short

/-- The points at which membership in one of the sets changes, beginning with zero and one. -/
def cuts (sets : List CodePoints) : Array Nat :=
  let points := 0 :: 1 :: sets.flatMap fun set => set.changes.toList
  (dropRepeated (points.mergeSort (· ≤ ·))).toArray.filter (· < codePointCount)

/-- The division by the given sets. -/
def ofSets (sets : List CodePoints) : Alphabet :=
  let sets := sets.eraseDups
  let bounds := cuts sets
  let (classes, numbers) := bounds.foldl
    (fun (classes, numbers) bound =>
      let membership := sets.map fun set => set.contains bound
      let signature := (decide (bound = 0), membership)
      match Std.HashMap.get? numbers signature with
      | some number => (classes.push number, numbers)
      | none => (classes.push numbers.size, numbers.insert signature numbers.size))
    ((#[] : Array Nat), (∅ : Std.HashMap (Bool × List Bool) Nat))
  ⟨bounds, classes, numbers.size⟩

/-- The classes that make up one of the sets by which the alphabet was divided. -/
def classesOf (alphabet : Alphabet) (set : CodePoints) : IndexSet :=
  alphabet.bounds.size.fold
    (fun index _ classes =>
      if set.contains (alphabet.bounds.getD index 0) then
        classes.insert (alphabet.classes.getD index 0)
      else classes)
    .empty

/-- The division that a grammar needs. -/
def ofGrammar (grammar : Grammar) : Alphabet :=
  ofSets (grammar.separators :: grammar.tokens.toList.flatMap fun token => token.pattern.sets)

end Alphabet

end JavaFacts.Grammar
