import Mathlib.Data.List.Perm.Basic
import JavaFacts.Syntax.Node

/-!
# The nodes of a tree in order

The pre-order of a tree lists all its nodes, a node before what is below it and children in the
order of the text. A stack of nodes stands for the pre-orders of its nodes, one after another;
taking a node off the stack and putting its children in its place only takes the first node off that
list. Loops over stacks are reasoned about by the induction that follows this step.
-/

namespace JavaFacts

namespace Node

/-! ## The order of children -/

/--
A list holds the given nodes in the order of the text: sorted by where they start, where nodes that
start together stay as they were.
-/
structure InTextOrder (declared ordered : List Node) : Prop where
  perm : ordered.Perm declared
  sorted : ordered.Pairwise fun left right => left.start ≤ right.start
  stable : ∀ offset,
    ordered.filter (fun node => node.start == offset) =
      declared.filter (fun node => node.start == offset)

theorem startsBefore_trans (first second third : Node) :
    startsBefore first second → startsBefore second third → startsBefore first third := by
  simp only [startsBefore, decide_eq_true_eq]
  exact Nat.le_trans

theorem startsBefore_total (left right : Node) :
    startsBefore left right || startsBefore right left := by
  simp only [startsBefore, Bool.or_eq_true, decide_eq_true_eq]
  exact Nat.le_total left.start right.start

theorem sorted_mergeSort (nodes : List Node) :
    (nodes.mergeSort startsBefore).Pairwise fun left right => left.start ≤ right.start := by
  have sorted := List.pairwise_mergeSort startsBefore_trans startsBefore_total nodes
  apply sorted.imp
  intro left right before
  simpa [startsBefore] using before

/-- Nodes that start together stay in their order. -/
theorem filter_start_mergeSort (nodes : List Node) (offset : Nat) :
    (nodes.mergeSort startsBefore).filter (fun node => node.start == offset) =
      nodes.filter (fun node => node.start == offset) := by
  have together : (nodes.filter
      (fun node => node.start == offset)).Pairwise fun left right => startsBefore left right := by
    apply List.pairwise_of_forall_mem_list
    intro left leftMem right rightMem
    have leftStart := (List.mem_filter.mp leftMem).2
    have rightStart := (List.mem_filter.mp rightMem).2
    simp only [beq_iff_eq] at leftStart rightStart
    simp only [startsBefore, decide_eq_true_eq]
    omega
  have kept := List.sublist_mergeSort startsBefore_trans startsBefore_total together
    List.filter_sublist
  have filtered := kept.filter (fun node => node.start == offset)
  rw [List.filter_filter] at filtered
  simp only [Bool.and_self] at filtered
  have sameLength := ((List.mergeSort_perm nodes startsBefore).filter
    (fun node => node.start == offset)).length_eq
  exact (filtered.eq_of_length sameLength.symm).symm

/-- Nodes that start one after another are sorted as they are. -/
theorem mergeSort_eq_of_sorted {nodes : List Node}
    (sorted : nodes.Pairwise fun left right => left.start ≤ right.start) :
    nodes.mergeSort startsBefore = nodes := by
  apply List.mergeSort_of_pairwise
  apply sorted.imp
  intro left right before
  simpa [startsBefore] using before

theorem inTextOrder_mergeSort (nodes : List Node) :
    InTextOrder nodes (nodes.mergeSort startsBefore) where
  perm := List.mergeSort_perm nodes startsBefore
  sorted := sorted_mergeSort nodes
  stable := filter_start_mergeSort nodes

theorem inTextOrder_children (node : Node) : InTextOrder node.declaredChildren node.children :=
  inTextOrder_mergeSort node.declaredChildren

/-! ## The pre-order -/

/-- All nodes of a tree, a node before what is below it, children in the order of the text. -/
def preorder (node : Node) : List Node :=
  node :: node.children.attach.flatMap fun child => preorder child.1
termination_by sizeOf node
decreasing_by exact sizeOf_lt_of_mem_children child.2

/-- All nodes of some trees, one tree after another. -/
def preorderAll (nodes : List Node) : List Node := nodes.flatMap preorder

theorem preorder_eq (node : Node) : node.preorder = node :: preorderAll node.children := by
  rw [preorder, preorderAll]
  congr 1
  rw [List.flatMap_subtype (g := preorder) (by intros; rfl), List.unattach_attach]

@[simp]
theorem preorderAll_nil : preorderAll [] = [] := rfl

@[simp]
theorem preorderAll_append (left right : List Node) :
    preorderAll (left ++ right) = preorderAll left ++ preorderAll right :=
  List.flatMap_append

theorem preorderAll_singleton (node : Node) : preorderAll [node] = node.preorder := by
  simp [preorderAll]

/-- Putting the children in the place of a node takes only the node itself off the list. -/
theorem preorderAll_cons (node : Node) (stack : List Node) :
    preorderAll (node :: stack) = node :: preorderAll (node.children ++ stack) := by
  rw [preorderAll_append]
  change node.preorder ++ preorderAll stack = _
  rw [preorder_eq, List.cons_append]

/-- Induction along a stack whose first node is replaced by its children. -/
theorem stack_induction {motive : List Node → Prop} (stack : List Node) (nil : motive [])
    (cons : ∀ node rest, motive (node.children ++ rest) → motive rest → motive (node :: rest)) :
    motive stack :=
  match stack with
  | [] => nil
  | node :: rest =>
      cons node rest (stack_induction (node.children ++ rest) nil cons)
        (stack_induction rest nil cons)
termination_by sizeOf stack
decreasing_by
  · exact node.sizeOf_children_append_lt rest
  · simp only [List.cons.sizeOf_spec]
    omega

/-- Wherever a node stands in the list, what is below it follows at once. -/
theorem preorderAll_children_follows {stack before after : List Node} {node : Node}
    (split : preorderAll stack = before ++ node :: after) :
    preorderAll node.children <+: after := by
  induction stack using stack_induction generalizing before with
  | nil => simp at split
  | cons first rest ih _ =>
      rw [preorderAll_cons] at split
      rcases before with _ | ⟨head, before⟩
      · simp only [List.nil_append, List.cons.injEq] at split
        rcases split with ⟨rfl, rfl⟩
        rw [preorderAll_append]
        exact List.prefix_append _ _
      · simp only [List.cons_append, List.cons.injEq] at split
        exact ih split.2

/-- The declared children of a node of a tree are nodes of the tree. -/
theorem mem_preorder_of_mem_declaredChildren {root node child : Node}
    (isNode : node ∈ root.preorder) (isChild : child ∈ node.declaredChildren) :
    child ∈ root.preorder := by
  rw [← preorderAll_singleton] at isNode ⊢
  rcases List.append_of_mem isNode with ⟨before, after, split⟩
  have isThere : child ∈ preorderAll node.children := by
    refine List.mem_flatMap.mpr ⟨child, node.children_perm.mem_iff.mpr isChild, ?_⟩
    rw [preorder_eq]
    exact List.mem_cons_self
  rw [split]
  have isAfter := (preorderAll_children_follows split).subset isThere
  simp [isAfter]

/-! ## Every node once -/

/-- All nodes of a tree, children in the order of the parts of the node. -/
def subtrees (node : Node) : List Node :=
  node :: node.declaredChildren.attach.flatMap fun child => subtrees child.1
termination_by sizeOf node
decreasing_by exact sizeOf_lt_of_mem_declaredChildren child.2

theorem subtrees_eq (node : Node) :
    node.subtrees = node :: node.declaredChildren.flatMap subtrees := by
  rw [subtrees]
  congr 1
  rw [List.flatMap_subtype (g := subtrees) (by intros; rfl), List.unattach_attach]

theorem mem_subtrees_self (node : Node) : node ∈ node.subtrees := by
  rw [subtrees_eq]
  exact List.mem_cons_self

theorem mem_subtrees_of_mem_declaredChildren {node child inner : Node}
    (isChild : child ∈ node.declaredChildren) (isInner : inner ∈ child.subtrees) :
    inner ∈ node.subtrees := by
  rw [subtrees_eq, List.mem_cons, List.mem_flatMap]
  exact Or.inr ⟨child, isChild, isInner⟩

/-- The pre-order lists every node of the tree, and none more often than it occurs. -/
theorem preorder_perm_subtrees (node : Node) : node.preorder.Perm node.subtrees := by
  rw [preorder_eq, subtrees_eq, preorderAll]
  apply List.Perm.cons
  have below : (node.children.flatMap preorder).Perm (node.children.flatMap subtrees) :=
    List.Perm.flatMap_left _ fun child isChild => preorder_perm_subtrees child
  exact below.trans (node.children_perm.flatMap_right subtrees)
termination_by sizeOf node
decreasing_by exact sizeOf_lt_of_mem_children isChild

end Node

end JavaFacts
