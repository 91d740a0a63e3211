import Mathlib.Order.Bounds.Basic
import JavaFacts.Concrete.Diagnosis
import JavaFacts.Proofs.Lines
import JavaFacts.Proofs.Nesting

/-!
# The first fault of a tree

The search for a fault enters only nodes that are marked. If a node is marked just when it or a node
below it is faulty, nothing is passed over: the children that are not entered hold no faulty node.
So what is found is the first faulty node of the pre-order, and one is found whenever the root is
marked.

The nodes of a pre-order start one after another if the children of every node lie in its range in
the order of the text. A later start is in no earlier line, so the first faulty node is in the first
line with a faulty node.
-/

namespace JavaFacts

namespace ConcreteTree

/-- Whether a node is an error or missing. -/
def isFaulty (tree : ConcreteTree) : Bool := tree.label.isError || tree.label.isMissing

/-- A node is marked just if it or a node below it is faulty. -/
def RightlyMarked (tree : ConcreteTree) : Prop :=
  tree.label.hasError ↔ ∃ inner ∈ tree.preorder, inner.isFaulty

instance (tree : ConcreteTree) : Decidable tree.RightlyMarked :=
  inferInstanceAs (Decidable (_ ↔ _))

theorem find?_preorder_of_not_marked {tree : ConcreteTree} (isRight : tree.RightlyMarked)
    (notMarked : ¬tree.label.hasError) : tree.preorder.find? isFaulty = none := by
  rw [List.find?_eq_none]
  intro inner isInner isFaulty
  exact notMarked (isRight.mpr ⟨inner, isInner, isFaulty⟩)

theorem find?_preorder_marked {trees : List ConcreteTree}
    (areRight : ∀ tree ∈ trees, tree.RightlyMarked) :
    ((trees.filter (·.label.hasError)).flatMap preorder).find? isFaulty =
      (trees.flatMap preorder).find? isFaulty := by
  induction trees with
  | nil => rfl
  | cons tree rest ih =>
      have later := ih fun other isOther => areRight other (by simp [isOther])
      by_cases isMarked : tree.label.hasError
      · simp [isMarked, List.find?_append, later]
      · have notFound := find?_preorder_of_not_marked (areRight tree (by simp)) isMarked
        simp [isMarked, List.find?_append, notFound, later]

/-! ## Nodes in the order of the text -/

theorem start_of_mem_preorder {tree inner : ConcreteTree}
    (filled : ∀ inner ∈ tree.preorder, inner.Fill inner.children)
    (ordered : tree.label.start ≤ tree.label.stop) (isInner : inner ∈ tree.preorder) :
    tree.label.start ≤ inner.label.start ∧ inner.label.start ≤ tree.label.stop := by
  rcases mem_preorder_iff.mp isInner with rfl | ⟨child, isChild, isBelow⟩
  · exact ⟨Nat.le_refl _, ordered⟩
  · have liesIn := (filled tree tree.mem_preorder_self).within child isChild
    have inChild := start_of_mem_preorder (forall_preorder_of_mem_children filled isChild)
      liesIn.ordered isBelow
    exact ⟨Nat.le_trans liesIn.start inChild.1, Nat.le_trans inChild.2 liesIn.stop⟩
termination_by sizeOf tree
decreasing_by exact sizeOf_lt_of_mem_children isChild

/-- If children lie in the range of their node one after another, so do starts in pre-order. -/
theorem pairwise_start_preorder {tree : ConcreteTree}
    (filled : ∀ inner ∈ tree.preorder, inner.Fill inner.children) :
    tree.preorder.Pairwise fun left right => left.label.start ≤ right.label.start := by
  have here := filled tree tree.mem_preorder_self
  have startsIn : ∀ child ∈ tree.children, ∀ inner ∈ child.preorder,
      child.label.start ≤ inner.label.start ∧ inner.label.start ≤ child.label.stop := by
    intro child isChild inner isInner
    exact start_of_mem_preorder (forall_preorder_of_mem_children filled isChild)
      (here.within child isChild).ordered isInner
  rw [preorder_eq, List.pairwise_cons, List.pairwise_flatMap]
  refine ⟨?_, ?_, ?_⟩
  · intro inner isBelow
    rcases List.mem_flatMap.mp isBelow with ⟨child, isChild, isInner⟩
    exact Nat.le_trans (here.within child isChild).start (startsIn child isChild inner isInner).1
  · intro child isChild
    exact pairwise_start_preorder (forall_preorder_of_mem_children filled isChild)
  · apply here.apart.imp_of_mem
    intro left right isLeft isRight precedes first isFirst second isSecond
    calc first.label.start
      _ ≤ left.label.stop := (startsIn left isLeft first isFirst).2
      _ ≤ right.label.start := precedes
      _ ≤ second.label.start := (startsIn right isRight second isSecond).1
termination_by sizeOf tree
decreasing_by exact sizeOf_lt_of_mem_children isChild

theorem start_le_of_find? {tree first : ConcreteTree}
    (filled : ∀ inner ∈ tree.preorder, inner.Fill inner.children)
    (isFirst : tree.preorder.find? isFaulty = some first) :
    ∀ inner ∈ tree.preorder, inner.isFaulty → first.label.start ≤ inner.label.start := by
  have sorted := pairwise_start_preorder filled
  rcases List.find?_eq_some_iff_append.mp isFirst with ⟨_, before, after, split, notBefore⟩
  rw [split] at sorted ⊢
  intro inner isInner isFaulty
  rcases List.mem_append.mp isInner with isBefore | isThere
  · have notFaulty := notBefore inner isBefore
    simp [isFaulty] at notFaulty
  · rcases List.mem_cons.mp isThere with rfl | isAfter
    · exact Nat.le_refl _
    · exact (List.pairwise_cons.mp (List.pairwise_append.mp sorted).2.1).1 inner isAfter

end ConcreteTree

namespace Diagnosis

open ConcreteTree

/-! ## The search -/

/-- What the search finds on a stack is the first faulty node of all trees on it. -/
theorem findFault_eq_find? {stack : List ConcreteTree}
    (areRight : ∀ inner ∈ stack.flatMap preorder, inner.RightlyMarked) :
    findFault stack = (stack.flatMap preorder).find? isFaulty := by
  fun_induction findFault stack with
  | case1 => rfl
  | case2 tree stack faulty =>
      have isFound : tree.isFaulty = true := faulty
      rw [List.flatMap_cons, preorder_eq, List.cons_append, List.find?_cons_of_pos isFound]
  | case3 tree stack notFaulty ih =>
      have notFound : ¬tree.isFaulty = true := notFaulty
      rw [List.flatMap_cons, preorder_eq, List.cons_append] at areRight ⊢
      have rightBelow : ∀ inner ∈ tree.children.flatMap preorder, inner.RightlyMarked := by
        intro inner isInner
        exact areRight inner (by simp [isInner])
      have rightChildren : ∀ child ∈ tree.children, child.RightlyMarked := by
        intro child isChild
        exact rightBelow child (List.mem_flatMap.mpr ⟨child, isChild, child.mem_preorder_self⟩)
      have entered : ∀ inner ∈ (tree.children.filter (·.label.hasError) ++ stack).flatMap preorder,
          inner.RightlyMarked := by
        intro inner isInner
        rw [List.flatMap_append, List.mem_append] at isInner
        rcases isInner with isBelow | isLater
        · rcases List.mem_flatMap.mp isBelow with ⟨child, isChild, isInner⟩
          exact rightBelow inner (List.mem_flatMap.mpr
            ⟨child, List.mem_of_mem_filter isChild, isInner⟩)
        · exact areRight inner (by simp [isLater])
      rw [ih entered, List.flatMap_append, List.find?_append, find?_preorder_marked rightChildren,
        List.find?_cons_of_neg notFound, List.find?_append]

theorem line_describe (source : String) (tree : ConcreteTree) :
    (describe source tree).line = (LineTable.ofText source).lineOf tree.label.start := by
  simp only [describe]
  split
  · rfl
  · split <;> rfl

/-- A fault that is described is not taken for one that was not found. -/
theorem message_describe_ne (source : String) (tree : ConcreteTree) :
    (describe source tree).problem.message ≠ SyntaxProblem.unknown.message := by
  intro isSame
  have sameCharacters := congrArg String.toList isSame
  simp only [describe] at sameCharacters
  split at sameCharacters
  · simp [SyntaxProblem.message] at sameCharacters
  · split at sameCharacters
    · simp [SyntaxProblem.message] at sameCharacters
    · simp [SyntaxProblem.message] at sameCharacters

theorem firstFault_eq_find? (source : String) {root : ConcreteTree}
    (areRight : ∀ inner ∈ root.preorder, inner.RightlyMarked) :
    firstFault source root = (root.preorder.find? isFaulty).map (describe source) := by
  have isRight := areRight root root.mem_preorder_self
  have search := @findFault_eq_find? [root] (by simpa using areRight)
  rw [List.flatMap_singleton] at search
  rw [firstFault, search]
  split
  · next isMarked =>
    have isFound : (root.preorder.find? isFaulty).isSome := by
      rw [List.find?_isSome]
      exact isRight.mp isMarked
    rcases Option.isSome_iff_exists.mp isFound with ⟨first, isFirst⟩
    rw [isFirst]
    rfl
  · next notMarked =>
    rw [find?_preorder_of_not_marked isRight notMarked]
    rfl

/--
If nodes are marked just when they hold a faulty node, a tree has a fault just if one of its nodes
is faulty, and the fault is that of the first one in pre-order. It is never one that was not found.
If moreover children lie in the range of their node one after another, no faulty node is in an
earlier line than the first one.
-/
theorem firstFault_describes_first {source : String} {root : ConcreteTree}
    (areRight : ∀ inner ∈ root.preorder, inner.RightlyMarked) :
    (firstFault source root = none ↔ ∀ inner ∈ root.preorder, ¬inner.isFaulty) ∧
      firstFault source root = (root.preorder.find? isFaulty).map (describe source) ∧
      (∀ fault ∈ firstFault source root,
        fault.problem.message ≠ SyntaxProblem.unknown.message ∧
          1 ≤ fault.line ∧ fault.line ≤ (LineTable.ofText source).lineCount) ∧
      ((∀ inner ∈ root.preorder, inner.Fill inner.children) →
        ∀ fault ∈ firstFault source root,
          IsLeast {line | ∃ inner ∈ root.preorder, inner.isFaulty ∧
            line = (LineTable.ofText source).lineOf inner.label.start} fault.line) := by
  have isFault := firstFault_eq_find? source areRight
  refine ⟨?_, isFault, ?_, ?_⟩
  · rw [isFault, Option.map_eq_none_iff, List.find?_eq_none]
  · intro fault isThere
    rw [isFault] at isThere
    rcases Option.map_eq_some_iff.mp isThere with ⟨first, _, rfl⟩
    rw [line_describe]
    exact ⟨message_describe_ne source first, LineTable.one_le_lineOf source _,
      LineTable.lineOf_le_lineCount source _⟩
  · intro filled fault isThere
    rw [isFault] at isThere
    rcases Option.map_eq_some_iff.mp isThere with ⟨first, isFirst, rfl⟩
    rw [line_describe]
    refine ⟨⟨first, List.mem_of_find?_eq_some isFirst, List.find?_some isFirst, rfl⟩, ?_⟩
    rintro line ⟨inner, isInner, faulty, rfl⟩
    exact LineTable.lineOf_mono source (start_le_of_find? filled isFirst inner isInner faulty)

namespace TwoFaults

/-- The second line cannot be read, and in the third one a semicolon is missing at the end. -/
def source : String := "f();\n)\ng()"

/-- A call without an object and without arguments. -/
def call (start : Nat) : ConcreteTree :=
  namedNode "method_invocation" none start (start + 3) [
    namedNode "identifier" (some "name") start (start + 1) [],
    namedNode "argument_list" (some "arguments") (start + 1) (start + 3)
      [tokenNode "(" (start + 1), tokenNode ")" (start + 2)]]

def unread : ConcreteTree :=
  .node ⟨"ERROR", 5, 6, true, true, none, true, false, true⟩ [tokenNode ")" 5]

def unended : ConcreteTree :=
  .node ⟨"expression_statement", 7, 10, true, false, none, false, false, true⟩
    [call 7, .node ⟨";", 10, 10, false, false, none, false, true, true⟩ []]

/-- The tree that the grammar makes of the source. -/
def root : ConcreteTree :=
  .node ⟨"program", 0, 10, true, false, none, false, false, true⟩ [
    namedNode "expression_statement" none 0 4 [call 0, tokenNode ";" 3], unread, unended]

theorem rightlyMarked_root : ∀ inner ∈ root.preorder, inner.RightlyMarked := by decide

theorem filled_root : ∀ inner ∈ root.preorder, inner.Fill inner.children := by decide

/-- The fault of the source is that of its second line, which is the first one with a fault. -/
theorem firstFault_twoFaults :
    (∀ inner ∈ root.preorder, inner.RightlyMarked) ∧
      (∀ inner ∈ root.preorder, inner.Fill inner.children) ∧
      firstFault source root = some ⟨2, .unexpected ")"⟩ ∧
      IsLeast {line | ∃ inner ∈ root.preorder, inner.isFaulty ∧
        line = (LineTable.ofText source).lineOf inner.label.start} 2 := by
  rcases firstFault_describes_first rightlyMarked_root with ⟨_, isFirst, _, isLeast⟩
  have isFault : firstFault source root = some ⟨2, .unexpected ")"⟩ := by
    rw [isFirst]
    decide +kernel
  exact ⟨rightlyMarked_root, filled_root, isFault, isLeast filled_root _ isFault⟩

end TwoFaults

end Diagnosis

end JavaFacts
