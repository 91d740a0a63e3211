import JavaFacts.Proofs.Lowering
import JavaFacts.Proofs.Preorder

/-!
# The nodes of a concrete tree

All nodes of a concrete tree in pre-order, named or not. The parts of a node, the children in its
fields, and therefore the trees that it is planned with, all are among its nodes. So every child of
a lowered node was lowered from one of these, or it stands for an object followed by `super`. What
holds of both kinds of nodes holds of all nodes that a tree is lowered to.
-/

namespace JavaFacts

namespace ConcreteTree

mutual

/-- All nodes of a tree, a node before what is below it. -/
def preorder : ConcreteTree → List ConcreteTree
  | node label children => node label children :: preorderAll children

/-- All nodes of some trees, one tree after another. -/
def preorderAll : List ConcreteTree → List ConcreteTree
  | [] => []
  | tree :: rest => tree.preorder ++ preorderAll rest

end

theorem preorderAll_eq_flatMap (trees : List ConcreteTree) :
    preorderAll trees = trees.flatMap preorder := by
  induction trees with
  | nil => rw [preorderAll, List.flatMap_nil]
  | cons tree rest ih => rw [preorderAll, List.flatMap_cons, ih]

theorem preorder_eq (tree : ConcreteTree) :
    tree.preorder = tree :: tree.children.flatMap preorder := by
  cases tree with
  | node label children => rw [preorder, preorderAll_eq_flatMap, ConcreteTree.children]

theorem mem_preorder_iff {tree inner : ConcreteTree} :
    inner ∈ tree.preorder ↔ inner = tree ∨ ∃ child ∈ tree.children, inner ∈ child.preorder := by
  rw [preorder_eq, List.mem_cons, List.mem_flatMap]

theorem mem_preorder_self (tree : ConcreteTree) : tree ∈ tree.preorder :=
  mem_preorder_iff.mpr (Or.inl rfl)

theorem mem_preorder_of_mem_children {tree child : ConcreteTree} (isChild : child ∈ tree.children) :
    child ∈ tree.preorder :=
  mem_preorder_iff.mpr (Or.inr ⟨child, isChild, child.mem_preorder_self⟩)

theorem sizeOf_lt_of_mem_children {tree child : ConcreteTree} (isChild : child ∈ tree.children) :
    sizeOf child < sizeOf tree :=
  Nat.lt_of_le_of_lt (Lowering.sizeOf_le_totalSize_of_mem isChild) tree.totalSize_children_lt

/-- What is below a node of a tree is below the tree. -/
theorem mem_preorder_trans {tree middle inner : ConcreteTree} (isMiddle : middle ∈ tree.preorder)
    (isInner : inner ∈ middle.preorder) : inner ∈ tree.preorder := by
  rcases mem_preorder_iff.mp isMiddle with rfl | ⟨child, isChild, isBelow⟩
  · exact isInner
  · exact mem_preorder_iff.mpr (Or.inr ⟨child, isChild, mem_preorder_trans isBelow isInner⟩)
termination_by sizeOf tree
decreasing_by exact sizeOf_lt_of_mem_children isChild

/-- What holds of all nodes of a tree holds of all nodes of a child. -/
theorem forall_preorder_of_mem_children {good : ConcreteTree → Prop} {tree child : ConcreteTree}
    (areGood : ∀ inner ∈ tree.preorder, good inner) (isChild : child ∈ tree.children) :
    ∀ inner ∈ child.preorder, good inner := by
  intro inner isInner
  exact areGood inner (mem_preorder_trans (mem_preorder_of_mem_children isChild) isInner)

theorem mem_children_of_fieldChild? {tree child : ConcreteTree} {field : String}
    (isChild : tree.fieldChild? field = some child) : child ∈ tree.children := by
  rcases Lowering.fieldChild?_eq_some isChild with ⟨place, _, isThere⟩
  exact List.mem_of_getElem? isThere

theorem mem_children_of_mem_parts {tree child : ConcreteTree} (isPart : child ∈ tree.parts) :
    child ∈ tree.children :=
  List.mem_of_mem_filter isPart

theorem pickFrom_sublist {α : Type} (allowed : Nat → Bool) (index : Nat) (elements : List α) :
    (pickFrom allowed index elements).Sublist elements := by
  induction elements generalizing index with
  | nil => exact List.Sublist.refl _
  | cons first rest ih =>
      rw [pickFrom]
      split
      · exact (ih (index + 1)).cons_cons first
      · exact (ih (index + 1)).cons first

theorem partsExcept_sublist (tree : ConcreteTree) (places : List (Option Nat)) :
    (tree.partsExcept places).Sublist tree.children :=
  List.filter_sublist.trans (pickFrom_sublist _ 0 _)

theorem mem_children_of_mem_partsExcept {tree child : ConcreteTree} {places : List (Option Nat)}
    (isPart : child ∈ tree.partsExcept places) : child ∈ tree.children :=
  (tree.partsExcept_sublist places).subset isPart

/-- The named children of a call that are a `super` and not the object of the call. -/
def supers (tree : ConcreteTree) : List ConcreteTree :=
  (tree.partsExcept [tree.fieldIndex? "object"]).filter (·.kind == "super")

theorem mem_children_of_mem_supers {tree superTree : ConcreteTree}
    (isSuper : superTree ∈ tree.supers) : superTree ∈ tree.children :=
  mem_children_of_mem_partsExcept (List.mem_of_mem_filter isSuper)

theorem mem_preorder_of_mem_fieldParts {tree fieldTree child : ConcreteTree} {field : String}
    (isField : tree.fieldChild? field = some fieldTree) (isPart : child ∈ fieldTree.parts) :
    child ∈ tree.preorder :=
  mem_preorder_trans (mem_preorder_of_mem_children (mem_children_of_fieldChild? isField))
    (mem_preorder_of_mem_children (mem_children_of_mem_parts isPart))

/-! ## Trees without errors -/

/-- A named node. -/
def namedNode (kind : String) (field : Option String) (start stop : Nat)
    (children : List ConcreteTree) : ConcreteTree :=
  node ⟨kind, start, stop, true, false, field, false, false, false⟩ children

/-- A node that stands for its text. -/
def tokenNode (text : String) (start : Nat) : ConcreteTree :=
  node ⟨text, start, start + text.utf8ByteSize, false, false, none, false, false, false⟩ []

end ConcreteTree

namespace Lowering

open ConcreteTree

/-- The trees that a node is planned with are among its nodes. -/
theorem mem_preorder_of_plans {setting : Setting} {tree child : ConcreteTree} {pending : Pending}
    {children : List ConcreteTree} (plans : Plans setting tree (.branch pending children))
    (isChild : child ∈ children) : child ∈ tree.preorder := by
  cases plans with
  | declaration isKind hasName isName =>
      rcases List.mem_append.mp isChild with inHeader | inBody
      · exact mem_preorder_of_mem_children (mem_children_of_mem_partsExcept inHeader)
      · rcases hasBody : tree.fieldChild? "body" with _ | body
        · simp [bodyParts, hasBody] at inBody
        · rw [bodyParts, hasBody] at inBody
          exact mem_preorder_of_mem_fieldParts hasBody inBody
  | call isKind hasName isName hasArguments noObject =>
      exact mem_preorder_of_mem_fieldParts hasArguments isChild
  | callOn isKind hasName isName hasArguments hasObject =>
      rcases List.mem_cons.mp isChild with rfl | isArgument
      · exact mem_preorder_of_mem_children (mem_children_of_fieldChild? hasObject)
      · exact mem_preorder_of_mem_fieldParts hasArguments isArgument
  | variableDeclaration isKind =>
      exact mem_preorder_of_mem_children (List.mem_of_mem_filter isChild)
  | fragment isKind hasName isName =>
      exact mem_preorder_of_mem_children
        (mem_children_of_fieldChild? (Option.mem_toList.mp isChild))
  | expression notDedicated noLiteral =>
      exact mem_preorder_of_mem_children (mem_children_of_mem_parts isChild)

/-- What holds of all nodes of a tree holds of all nodes of a tree that it is planned with. -/
theorem forall_preorder_of_plans {setting : Setting} {good : ConcreteTree → Prop}
    {tree child : ConcreteTree} {pending : Pending} {children : List ConcreteTree}
    (areGood : ∀ inner ∈ tree.preorder, good inner)
    (plans : Plans setting tree (.branch pending children)) (isChild : child ∈ children) :
    ∀ inner ∈ child.preorder, good inner := by
  intro inner isInner
  exact areGood inner (mem_preorder_trans (mem_preorder_of_plans plans isChild) isInner)

/-- The node of an object and a `super` that follows it stops where the `super` does. -/
theorem receiverOn_eq_qualifiedSuper {setting : Setting} {tree object : ConcreteTree} {span : Span}
    (isReceiver : receiverOn setting tree object = .qualifiedSuper span) :
    ∃ superTree ∈ tree.supers,
      span = setting.spanOf object.label.start superTree.label.stop := by
  rw [receiverOn] at isReceiver
  split at isReceiver
  · next superTree found =>
    cases isReceiver
    have isKind := List.find?_some found
    exact ⟨superTree, List.mem_filter.mpr ⟨List.mem_of_find?_eq_some found, isKind⟩, rfl⟩
  · cases isReceiver

/-- A node is assembled with the given children only, but the first may be followed by `super`. -/
theorem mem_declaredChildren_assemble {pending : Pending} {nodes : List Node} {child : Node}
    (isChild : child ∈ (pending.assemble nodes).declaredChildren) :
    child ∈ nodes ∨ ∃ name span object, pending.shape = .invocation name (.qualifiedSuper span) ∧
      nodes.head? = some object ∧ child = .expression span qualifiedSuperKind [object] := by
  rcases pending with ⟨_, shape, _⟩
  cases shape with
  | declaration name header hasBody =>
      rcases List.mem_append.mp isChild with inHeader | inBody
      · exact Or.inl (List.mem_of_mem_take inHeader)
      · cases hasBody with
        | false => cases inBody
        | true => exact Or.inl (List.mem_of_mem_drop inBody)
  | invocation name receiver =>
      cases receiver with
      | none => exact Or.inl isChild
      | object =>
          rcases List.mem_append.mp isChild with isHead | inTail
          · exact Or.inl (List.mem_of_mem_head? (Option.mem_toList.mp isHead))
          · exact Or.inl (List.mem_of_mem_tail inTail)
      | qualifiedSuper span =>
          rcases List.mem_append.mp isChild with isHead | inTail
          · rcases Option.map_eq_some_iff.mp (Option.mem_toList.mp isHead) with
              ⟨object, isObject, rfl⟩
            exact Or.inr ⟨name, span, object, rfl, isObject, rfl⟩
          · exact Or.inl (List.mem_of_mem_tail inTail)
  | variableDeclaration => exact Or.inl isChild
  | fragment name => exact Or.inl (List.mem_of_mem_head? (Option.mem_toList.mp isChild))
  | expression kind => exact Or.inl isChild

/-- A node that stands for the object of a call and the `super` that follows it. -/
inductive StandsForSuper (setting : Setting) (tree : ConcreteTree) : Node → Prop
  | intro {object : ConcreteTree} {span : Span} {receiver : Node}
      (isKind : tree.kind = "method_invocation")
      (hasObject : tree.fieldChild? "object" = some object)
      (isReceiver : receiverOn setting tree object = .qualifiedSuper span)
      (receiverLowers : Lowers setting object receiver) :
      StandsForSuper setting tree (.expression span qualifiedSuperKind [receiver])

theorem exists_lowers_of_mem_declaredChildren {setting : Setting} {tree : ConcreteTree}
    {node child : Node} (lowers : Lowers setting tree node)
    (isChild : child ∈ node.declaredChildren) :
    (∃ inner ∈ tree.preorder, Lowers setting inner child) ∨ StandsForSuper setting tree child := by
  rcases exists_plan_of_lowers lowers with plans | ⟨pending, children, nodes, plans, related, rfl⟩
  · cases plans
    cases isChild
  · rcases mem_declaredChildren_assemble isChild with
      isNode | ⟨name, span, object, isShape, isHead, rfl⟩
    · rcases InOrder.exists_of_mem_right related isNode with ⟨inner, innerMem, innerLowers⟩
      exact Or.inl ⟨inner, mem_preorder_of_plans plans innerMem, innerLowers⟩
    · cases plans with
      | callOn isKind hasName isName hasArguments hasObject =>
          injection isShape with _ isReceiver
          rcases related with _ | ⟨receiverLowers, _⟩
          cases isHead
          exact Or.inr (.intro isKind hasObject isReceiver receiverLowers)
      | _ => cases isShape

/-- What holds of every node that is lowered from a good tree holds of all nodes below it too. -/
theorem forall_subtrees_of_lowers {setting : Setting} {good : ConcreteTree → Prop}
    {holds : Node → Prop}
    (ofLowers : ∀ tree node, (∀ inner ∈ tree.preorder, good inner) →
      Lowers setting tree node → holds node)
    (ofSuper : ∀ tree node, (∀ inner ∈ tree.preorder, good inner) →
      StandsForSuper setting tree node → holds node)
    {tree : ConcreteTree} {node : Node} (areGood : ∀ inner ∈ tree.preorder, good inner)
    (lowers : Lowers setting tree node) : ∀ inner ∈ node.subtrees, holds inner := by
  intro inner isInner
  rw [Node.subtrees_eq, List.mem_cons, List.mem_flatMap] at isInner
  rcases isInner with rfl | ⟨child, isChild, isBelow⟩
  · exact ofLowers tree inner areGood lowers
  have smaller := Node.sizeOf_lt_of_mem_declaredChildren isChild
  rcases exists_lowers_of_mem_declaredChildren lowers isChild with
    ⟨childTree, isTree, childLowers⟩ | standsForSuper
  · refine forall_subtrees_of_lowers ofLowers ofSuper ?_ childLowers inner isBelow
    intro other isOther
    exact areGood other (mem_preorder_trans isTree isOther)
  · have holdsHere := ofSuper tree child areGood standsForSuper
    cases standsForSuper with
    | @intro object span receiver isKind hasObject isReceiver receiverLowers =>
        rw [Node.subtrees_eq, List.mem_cons, List.mem_flatMap] at isBelow
        rcases isBelow with rfl | ⟨only, isOnly, isBelow⟩
        · exact holdsHere
        · have evenSmaller := Node.sizeOf_lt_of_mem_declaredChildren isOnly
          have isReceiverNode : only = receiver := List.mem_singleton.mp isOnly
          subst isReceiverNode
          refine forall_subtrees_of_lowers ofLowers ofSuper ?_ receiverLowers inner isBelow
          intro other isOther
          have isObject := mem_preorder_of_mem_children (mem_children_of_fieldChild? hasObject)
          exact areGood other (mem_preorder_trans isObject isOther)
termination_by sizeOf node

end Lowering

end JavaFacts
