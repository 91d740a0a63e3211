/-!
# Sets of small numbers

Sets of tokens and of character classes are kept as the number whose binary digits tell the members,
so that the union of two sets is one operation on numbers.
-/

namespace JavaFacts.Grammar

/-- A set of small numbers. -/
structure IndexSet where
  bits : Nat
deriving BEq, DecidableEq, Inhabited

/-- A set of tokens, by their places in the lexicon. -/
abbrev TokenSet := IndexSet

namespace IndexSet

/-- Mixes all digits of the set, since sets often differ only in their high digits. -/
instance : Hashable IndexSet where
  hash set :=
    mixHash set.bits.toUInt64 (mixHash (set.bits >>> 64).toUInt64 (set.bits >>> 128).toUInt64)

def empty : IndexSet := ⟨0⟩

def single (index : Nat) : IndexSet := ⟨1 <<< index⟩

/-- The numbers before `count`. -/
def below (count : Nat) : IndexSet := ⟨(1 <<< count) - 1⟩

def contains (set : IndexSet) (index : Nat) : Bool := set.bits.testBit index

instance : Union IndexSet := ⟨fun left right => ⟨left.bits ||| right.bits⟩⟩

instance : Inter IndexSet := ⟨fun left right => ⟨left.bits &&& right.bits⟩⟩

/-- The numbers that belong to exactly one of two sets. -/
def difference (left right : IndexSet) : IndexSet := ⟨left.bits ^^^ right.bits⟩

def isEmpty (set : IndexSet) : Bool := set.bits == 0

/-- Whether two sets have a common member. -/
def meets (left right : IndexSet) : Bool := !(left ∩ right).isEmpty

def insert (set : IndexSet) (index : Nat) : IndexSet := set ∪ single index

/-- The numbers before `count` that satisfy a condition. -/
def filterBelow (count : Nat) (condition : Nat → Bool) : IndexSet :=
  count.fold (fun index _ set => if condition index then set.insert index else set) empty

/-- The members before `count`, in increasing order. -/
def members (set : IndexSet) (count : Nat) : List Nat :=
  (List.range count).filter set.contains

end IndexSet

end JavaFacts.Grammar
