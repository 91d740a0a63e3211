/-!
# Concrete trees

A concrete tree is what the grammar makes of a text: every node that shows, with its kind, its range
in bytes and the field of the parent that it belongs to. Comments are extra nodes, which may stand
anywhere. Text that could not be parsed is an error node, and a token that the parser put in is a
missing node.
-/

namespace JavaFacts

/-- What is known about a node of a concrete tree without its children. -/
structure ConcreteLabel where
  kind : String
  /-- The offset of the first byte. -/
  start : Nat
  /-- The offset after the last byte. -/
  stop : Nat
  /-- Whether the node has a kind of its own, and does not just stand for its text. -/
  named : Bool
  /-- Whether the node may stand anywhere. -/
  extra : Bool
  /-- The field of the parent that the node belongs to. -/
  field : Option String
  isError : Bool
  isMissing : Bool
  /-- Whether the node or one below it is an error or missing. -/
  hasError : Bool
deriving DecidableEq, Repr, Inhabited

/-- A tree of what the grammar makes of a text. -/
inductive ConcreteTree where
  | node (label : ConcreteLabel) (children : List ConcreteTree)
deriving Inhabited

namespace ConcreteTree

def label : ConcreteTree → ConcreteLabel
  | node label _ => label

def children : ConcreteTree → List ConcreteTree
  | node _ children => children

def kind (tree : ConcreteTree) : String := tree.label.kind

/-- Whether a node is named and no extra. -/
def isPart (tree : ConcreteTree) : Bool := tree.label.named && !tree.label.extra

/-- The named children without extras. -/
def parts (tree : ConcreteTree) : List ConcreteTree := tree.children.filter isPart

/-- Whether a node belongs to a field of its parent. -/
def isInField (field : String) (tree : ConcreteTree) : Bool := tree.label.field == some field

/-- The place of the first child that belongs to a field. -/
def fieldIndex? (tree : ConcreteTree) (field : String) : Option Nat :=
  tree.children.findIdx? (isInField field)

/-- The first child that belongs to a field. -/
def fieldChild? (tree : ConcreteTree) (field : String) : Option ConcreteTree :=
  (tree.fieldIndex? field).bind fun index => tree.children[index]?

/-- The children that belong to a field. -/
def fieldChildren (tree : ConcreteTree) (field : String) : List ConcreteTree :=
  tree.children.filter (isInField field)

/-- The elements that stand at allowed places, where the first stands at `index`. -/
def pickFrom {α : Type} (allowed : Nat → Bool) : (index : Nat) → List α → List α
  | _, [] => []
  | index, first :: rest =>
    if allowed index then first :: pickFrom allowed (index + 1) rest
    else pickFrom allowed (index + 1) rest

/-- The named children without extras that do not stand at one of the given places. -/
def partsExcept (tree : ConcreteTree) (places : List (Option Nat)) : List ConcreteTree :=
  (pickFrom (fun index => !places.contains (some index)) 0 tree.children).filter isPart

/-! ## Sizes -/

/-- The sizes of trees, taken together. -/
noncomputable def totalSize : List ConcreteTree → Nat
  | [] => 0
  | tree :: rest => sizeOf tree + totalSize rest

theorem totalSize_cons (first : ConcreteTree) (rest : List ConcreteTree) :
    totalSize (first :: rest) = sizeOf first + totalSize rest := rfl

theorem totalSize_append (left right : List ConcreteTree) :
    totalSize (left ++ right) = totalSize left + totalSize right := by
  induction left with
  | nil => simp [totalSize]
  | cons first rest ih => rw [List.cons_append, totalSize_cons, totalSize_cons, ih, Nat.add_assoc]

theorem totalSize_filter_le (condition : ConcreteTree → Bool) (trees : List ConcreteTree) :
    totalSize (trees.filter condition) ≤ totalSize trees := by
  induction trees with
  | nil => simp
  | cons first rest ih =>
    rw [List.filter_cons]
    split
    · rw [totalSize_cons, totalSize_cons]; omega
    · rw [totalSize_cons]; omega

theorem totalSize_pickFrom_le (allowed : Nat → Bool) (index : Nat) (trees : List ConcreteTree) :
    totalSize (pickFrom allowed index trees) ≤ totalSize trees := by
  induction trees generalizing index with
  | nil => simp [pickFrom]
  | cons first rest ih =>
    have shorter := ih (index + 1)
    rw [pickFrom]
    split
    · rw [totalSize_cons, totalSize_cons]; omega
    · rw [totalSize_cons]; omega

theorem totalSize_le_sizeOf (trees : List ConcreteTree) : totalSize trees ≤ sizeOf trees := by
  induction trees with
  | nil => simp [totalSize]
  | cons first rest ih => rw [totalSize_cons, List.cons.sizeOf_spec]; omega

theorem totalSize_children_lt (tree : ConcreteTree) : totalSize tree.children < sizeOf tree := by
  cases tree with
  | node label children =>
    have smaller := totalSize_le_sizeOf children
    simp only [ConcreteTree.children, node.sizeOf_spec]; omega

/-- A child at a place that is left out can be counted beside those that are picked. -/
theorem totalSize_pickFrom_add_le (allowed : Nat → Bool) (start : Nat) {place : Nat}
    {trees : List ConcreteTree} {child : ConcreteTree} (isThere : trees[place]? = some child)
    (isLeftOut : allowed (start + place) = false) :
    totalSize (pickFrom allowed start trees) + sizeOf child ≤ totalSize trees := by
  induction trees generalizing start place with
  | nil => simp at isThere
  | cons first rest ih =>
    cases place with
    | zero =>
      have isFirst : first = child := by simpa using isThere
      have picked := totalSize_pickFrom_le allowed (start + 1) rest
      simp only [Nat.add_zero] at isLeftOut
      rw [pickFrom, if_neg (by simp [isLeftOut]), totalSize_cons, isFirst]; omega
    | succ place =>
      have shifted : start + 1 + place = start + (place + 1) := by omega
      have found : rest[place]? = some child := by simpa using isThere
      have leftOut : allowed (start + 1 + place) = false := by rw [shifted]; exact isLeftOut
      have later := ih (start + 1) found leftOut
      rw [pickFrom]
      split
      · rw [totalSize_cons, totalSize_cons]; omega
      · rw [totalSize_cons]; omega

/-- A child is no larger than all children together. -/
theorem sizeOf_le_totalSize {place : Nat} {trees : List ConcreteTree} {child : ConcreteTree}
    (isThere : trees[place]? = some child) : sizeOf child ≤ totalSize trees := by
  have counted := totalSize_pickFrom_add_le (fun _ => false) 0 isThere rfl
  omega

/-- Two children at different places are no larger than all children together. -/
theorem sizeOf_add_le_totalSize {left right : Nat} {trees : List ConcreteTree}
    {leftChild rightChild : ConcreteTree} (leftIsThere : trees[left]? = some leftChild)
    (rightIsThere : trees[right]? = some rightChild) (isOther : left ≠ right) :
    sizeOf leftChild + sizeOf rightChild ≤ totalSize trees := by
  induction trees generalizing left right with
  | nil => simp at leftIsThere
  | cons first rest ih =>
    rw [totalSize_cons]
    cases left with
    | zero =>
      cases right with
      | zero => exact absurd rfl isOther
      | succ right =>
        have isFirst : first = leftChild := by simpa using leftIsThere
        have found : rest[right]? = some rightChild := by simpa using rightIsThere
        have isLater := sizeOf_le_totalSize found
        rw [isFirst]; omega
    | succ left =>
      cases right with
      | zero =>
        have isFirst : first = rightChild := by simpa using rightIsThere
        have found : rest[left]? = some leftChild := by simpa using leftIsThere
        have isLater := sizeOf_le_totalSize found
        rw [isFirst]; omega
      | succ right =>
        have leftFound : rest[left]? = some leftChild := by simpa using leftIsThere
        have rightFound : rest[right]? = some rightChild := by simpa using rightIsThere
        have later := ih leftFound rightFound (by omega)
        omega

end ConcreteTree

end JavaFacts
