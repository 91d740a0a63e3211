import JavaFacts.Text.Boundaries

/-!
# Sets of code points

A set of code points is kept as the increasing list of the points at which membership changes,
beginning outside the set. A code point is a member when an odd number of these points lie at or
before it, so the complement of a set only adds or removes the point zero.
-/

namespace JavaFacts.Text

/-- A set of code points, given by the points at which membership changes. -/
structure CodePoints where
  /-- The code points at which membership changes, in increasing order. -/
  changes : Array Nat
deriving BEq, Hashable, Inhabited

namespace CodePoints

/-- Whether a code point belongs to the set. -/
def contains (set : CodePoints) (code : Nat) : Bool :=
  Boundaries.countUpTo set.changes code % 2 == 1

/-- Whether a character belongs to the set. -/
def hasChar (set : CodePoints) (character : Char) : Bool :=
  set.contains character.toNat

/-- The set without members. -/
def empty : CodePoints := ⟨#[]⟩

/-- The set of the code points from `low` to `high`, both included. -/
def interval (low high : Nat) : CodePoints := ⟨#[low, high + 1]⟩

/-- The set of one character. -/
def single (character : Char) : CodePoints := interval character.toNat character.toNat

/-- Every code point that the set lacks. -/
def complement (set : CodePoints) : CodePoints :=
  match set.changes.toList with
  | 0 :: later => ⟨later.toArray⟩
  | changes => ⟨(0 :: changes).toArray⟩

/--
Merges two lists of changes of membership: a point is kept when the union changes there. The flags
tell on which side of its changes each set stands.
-/
def mergeChanges : (fuel : Nat) → (inLeft inRight : Bool) → List Nat → List Nat → List Nat
  | 0, _, _, _, _ => []
  | fuel + 1, inLeft, inRight, left, right =>
    match left, right with
    | [], [] => []
    | l :: left, [] =>
      let later := mergeChanges fuel (!inLeft) inRight left []
      if inRight then later else l :: later
    | [], r :: right =>
      let later := mergeChanges fuel inLeft (!inRight) [] right
      if inLeft then later else r :: later
    | l :: left, r :: right =>
      if l < r then
        let later := mergeChanges fuel (!inLeft) inRight left (r :: right)
        if inRight then later else l :: later
      else if r < l then
        let later := mergeChanges fuel inLeft (!inRight) (l :: left) right
        if inLeft then later else r :: later
      else
        let later := mergeChanges fuel (!inLeft) (!inRight) left right
        if (inLeft || inRight) == (!inLeft || !inRight) then later else l :: later

/-- The code points that belong to either set. -/
def union (left right : CodePoints) : CodePoints :=
  let fuel := left.changes.size + right.changes.size + 1
  ⟨(mergeChanges fuel false false left.changes.toList right.changes.toList).toArray⟩

instance : Union CodePoints := ⟨union⟩

/-- The set of the characters that occur in a text. -/
def ofText (text : String) : CodePoints :=
  text.toList.foldl (fun set character => set ∪ single character) empty

end CodePoints

end JavaFacts.Text
