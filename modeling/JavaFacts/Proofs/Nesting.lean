import JavaFacts.Proofs.WellMade

/-!
# Nested spans

The children of a node of a concrete tree lie in its range, one after another. Lowering leaves out
levels of the tree, puts the children of two nodes into one list, makes a node that covers an object
and the `super` after it, and takes a shift off both ends of every range, though not below zero. All
this keeps the children of a node in its span, one after another. So they are in the order of the
text as they are declared, and sorting them changes nothing.
-/

namespace JavaFacts

/-! ## Ranges of concrete nodes -/

namespace ConcreteTree

/-- The range of a node lies in that of another one. -/
structure LiesIn (inner outer : ConcreteTree) : Prop where
  start : outer.label.start ≤ inner.label.start
  ordered : inner.label.start ≤ inner.label.stop
  stop : inner.label.stop ≤ outer.label.stop

/-- A node stops before another one starts. -/
def Precedes (left right : ConcreteTree) : Prop := left.label.stop ≤ right.label.start

/-- Nodes lie in the range of another one, one after another. -/
structure Fill (outer : ConcreteTree) (trees : List ConcreteTree) : Prop where
  within : ∀ tree ∈ trees, tree.LiesIn outer
  apart : trees.Pairwise Precedes

/-- The children of a node lie in its range, one after another and in the order of the grammar. -/
structure WellPlaced (tree : ConcreteTree) : Prop where
  children : tree.Fill tree.children
  /-- The body of a declaration comes after its other parts. -/
  bodyLast : tree.kind = "method_declaration" ∨ tree.kind = "constructor_declaration" →
    ∀ body ∈ tree.fieldChild? "body", ∀ part ∈ tree.partsExcept [tree.fieldIndex? "body"],
      part.Precedes body
  /-- The object of a call comes before a `super` that follows it. -/
  objectFirst : tree.kind = "method_invocation" → ∀ object ∈ tree.fieldChild? "object",
    ∀ superTree ∈ tree.supers, object.Precedes superTree
  /-- The object of a call and a `super` that follows it come before the arguments. -/
  argumentsLast : tree.kind = "method_invocation" → ∀ object ∈ tree.fieldChild? "object",
    ∀ arguments ∈ tree.fieldChild? "arguments",
      object.Precedes arguments ∧ ∀ superTree ∈ tree.supers, superTree.Precedes arguments

instance (inner outer : ConcreteTree) : Decidable (inner.LiesIn outer) :=
  decidable_of_iff (outer.label.start ≤ inner.label.start ∧
      inner.label.start ≤ inner.label.stop ∧ inner.label.stop ≤ outer.label.stop)
    ⟨fun ⟨start, ordered, stop⟩ => ⟨start, ordered, stop⟩,
      fun liesIn => ⟨liesIn.start, liesIn.ordered, liesIn.stop⟩⟩

instance (left right : ConcreteTree) : Decidable (left.Precedes right) :=
  inferInstanceAs (Decidable (left.label.stop ≤ right.label.start))

instance (outer : ConcreteTree) (trees : List ConcreteTree) : Decidable (outer.Fill trees) :=
  decidable_of_iff ((∀ tree ∈ trees, tree.LiesIn outer) ∧ trees.Pairwise Precedes)
    ⟨fun ⟨within, apart⟩ => ⟨within, apart⟩, fun fill => ⟨fill.within, fill.apart⟩⟩

instance (tree : ConcreteTree) : Decidable tree.WellPlaced :=
  decidable_of_iff
    (tree.Fill tree.children ∧
      (tree.kind = "method_declaration" ∨ tree.kind = "constructor_declaration" →
        ∀ body ∈ tree.fieldChild? "body", ∀ part ∈ tree.partsExcept [tree.fieldIndex? "body"],
          part.Precedes body) ∧
      (tree.kind = "method_invocation" → ∀ object ∈ tree.fieldChild? "object",
        ∀ superTree ∈ tree.supers, object.Precedes superTree) ∧
      (tree.kind = "method_invocation" → ∀ object ∈ tree.fieldChild? "object",
        ∀ arguments ∈ tree.fieldChild? "arguments",
          object.Precedes arguments ∧ ∀ superTree ∈ tree.supers, superTree.Precedes arguments))
    ⟨fun ⟨children, bodyLast, objectFirst, argumentsLast⟩ =>
        ⟨children, bodyLast, objectFirst, argumentsLast⟩,
      fun placed => ⟨placed.children, placed.bodyLast, placed.objectFirst, placed.argumentsLast⟩⟩

namespace Fill

variable {outer inner : ConcreteTree} {trees left right : List ConcreteTree}

theorem sublist (fill : outer.Fill trees) (fewer : left.Sublist trees) : outer.Fill left where
  within := by
    intro tree isTree
    exact fill.within tree (fewer.subset isTree)
  apart := fill.apart.sublist fewer

theorem widen (fill : inner.Fill trees) (liesIn : inner.LiesIn outer) : outer.Fill trees where
  within := by
    intro tree isTree
    have within := fill.within tree isTree
    exact ⟨Nat.le_trans liesIn.start within.start, within.ordered,
      Nat.le_trans within.stop liesIn.stop⟩
  apart := fill.apart

theorem append (leftFill : outer.Fill left) (rightFill : outer.Fill right)
    (precede : ∀ first ∈ left, ∀ second ∈ right, first.Precedes second) :
    outer.Fill (left ++ right) where
  within := by
    intro tree isTree
    rcases List.mem_append.mp isTree with isLeft | isRight
    · exact leftFill.within tree isLeft
    · exact rightFill.within tree isRight
  apart := List.pairwise_append.mpr ⟨leftFill.apart, rightFill.apart, precede⟩

end Fill

theorem precedes_of_liesIn {left right inner : ConcreteTree} (precedes : left.Precedes right)
    (liesIn : inner.LiesIn right) : left.Precedes inner :=
  Nat.le_trans precedes liesIn.start

/-- The parts of a child lie in the range of the node too. -/
theorem fill_parts_of_mem_children {tree child : ConcreteTree}
    (wellPlaced : ∀ inner ∈ tree.preorder, WellPlaced inner) (isChild : child ∈ tree.children) :
    child.Fill child.parts ∧ child.LiesIn tree := by
  have ofChild := wellPlaced child (mem_preorder_of_mem_children isChild)
  have ofTree := wellPlaced tree tree.mem_preorder_self
  exact ⟨ofChild.children.sublist List.filter_sublist, ofTree.children.within child isChild⟩

theorem pickFrom_subset_pickFrom {α : Type} {allowed other : Nat → Bool}
    (implies : ∀ place, allowed place → other place) (index : Nat) (elements : List α) :
    pickFrom allowed index elements ⊆ pickFrom other index elements := by
  induction elements generalizing index with
  | nil => exact List.Subset.refl _
  | cons first rest ih =>
      rw [pickFrom, pickFrom]
      split
      · next isAllowed =>
        rw [if_pos (implies index isAllowed)]
        exact List.cons_subset_cons first (ih (index + 1))
      · split
        · exact List.subset_cons_of_subset first (ih (index + 1))
        · exact ih (index + 1)

theorem partsExcept_subset (tree : ConcreteTree) {places fewer : List (Option Nat)}
    (areFewer : fewer ⊆ places) : tree.partsExcept places ⊆ tree.partsExcept fewer := by
  apply List.filter_subset
  apply pickFrom_subset_pickFrom
  intro place isAllowed
  simp only [Bool.not_eq_true', List.contains_eq_mem, decide_eq_false_iff_not] at isAllowed ⊢
  exact fun isThere => isAllowed (areFewer isThere)

end ConcreteTree

/-! ## Spans of nodes -/

/-- Nodes lie in a span, one after another. -/
structure Span.Holds (span : Span) (nodes : List Node) : Prop where
  within : ∀ node ∈ nodes, span.start ≤ node.span.start ∧ node.span.stop ≤ span.stop
  apart : nodes.Pairwise fun left right => left.span.stop ≤ right.span.start

/-- The children of a node, as they are declared, lie in its span one after another. -/
def Node.Nested (node : Node) : Prop := node.span.Holds node.declaredChildren

theorem Node.start_le_stop (node : Node) : node.span.start ≤ node.span.stop :=
  Nat.le_add_right _ _

/-- Nodes that come one after another are sorted as they are. -/
theorem Node.mergeSort_eq_of_apart {nodes : List Node}
    (apart : nodes.Pairwise fun left right => left.span.stop ≤ right.span.start) :
    nodes.mergeSort startsBefore = nodes := by
  apply mergeSort_eq_of_sorted
  apply apart.imp
  intro left right isApart
  exact Nat.le_trans left.start_le_stop isApart

theorem Node.children_eq_of_nested {node : Node} (nested : node.Nested) :
    node.children = node.declaredChildren :=
  mergeSort_eq_of_apart nested.apart

/-! ## Lowering keeps spans nested -/

namespace Lowering

open ConcreteTree InOrder

theorem Setting.le_stop_spanOf (setting : Setting) (start stop : Nat) :
    stop - setting.shift ≤ (setting.spanOf start stop).stop := by
  simp only [Setting.spanOf, Span.ofBounds, Span.stop]
  omega

/-- A node that covers the same stretch of the text as a concrete one. -/
def Covers (setting : Setting) (tree : ConcreteTree) (node : Node) : Prop :=
  node.span = setting.span tree

theorem covers_of_lowers {setting : Setting} {trees : List ConcreteTree} {nodes : List Node}
    (lowered : List.Forall₂ (Lowers setting) trees nodes) :
    List.Forall₂ (Covers setting) trees nodes :=
  lowered.imp fun _ _ => span_of_lowers

theorem holds_of_fill {setting : Setting} {outer : ConcreteTree} {trees : List ConcreteTree}
    {nodes : List Node} (fill : outer.Fill trees)
    (covered : List.Forall₂ (Covers setting) trees nodes) : (setting.span outer).Holds nodes where
  within := by
    intro node isNode
    rcases exists_of_mem_right covered isNode with ⟨tree, isTree, covers⟩
    have liesIn := fill.within tree isTree
    rw [covers]
    refine ⟨Nat.sub_le_sub_right liesIn.start _, ?_⟩
    apply Nat.le_trans _ (setting.le_stop_spanOf outer.label.start outer.label.stop)
    rw [Setting.span, setting.stop_spanOf liesIn.ordered]
    exact Nat.sub_le_sub_right liesIn.stop _
  apart := by
    induction covered with
    | nil => exact .nil
    | @cons tree node trees nodes covers covered ih =>
        rcases List.pairwise_cons.mp fill.apart with ⟨precedes, _⟩
        refine List.pairwise_cons.mpr ⟨?_, ih (fill.sublist (List.sublist_cons_self _ _))⟩
        intro later isLater
        rcases exists_of_mem_right covered isLater with ⟨laterTree, isTree, laterCovers⟩
        rw [covers, laterCovers, Setting.span,
          setting.stop_spanOf (fill.within tree (by simp)).ordered]
        exact Nat.sub_le_sub_right (precedes laterTree isTree) _

theorem fill_declaration {tree body : ConcreteTree}
    (wellPlaced : ∀ inner ∈ tree.preorder, WellPlaced inner)
    (isKind : tree.kind = "method_declaration" ∨ tree.kind = "constructor_declaration")
    (hasBody : tree.fieldChild? "body" = some body) :
    tree.Fill (headerParts tree ++ body.parts) := by
  have here := wellPlaced tree tree.mem_preorder_self
  rcases fill_parts_of_mem_children wellPlaced (mem_children_of_fieldChild? hasBody) with
    ⟨inBody, bodyLiesIn⟩
  refine (here.children.sublist (tree.partsExcept_sublist _)).append (inBody.widen bodyLiesIn) ?_
  intro part isPart statement isStatement
  have isOther : part ∈ tree.partsExcept [tree.fieldIndex? "body"] :=
    tree.partsExcept_subset (by simp) isPart
  exact precedes_of_liesIn (here.bodyLast isKind body hasBody part isOther)
    (inBody.within statement isStatement)

theorem fill_arguments {tree arguments : ConcreteTree}
    (wellPlaced : ∀ inner ∈ tree.preorder, WellPlaced inner)
    (hasArguments : tree.fieldChild? "arguments" = some arguments) :
    tree.Fill arguments.parts := by
  rcases fill_parts_of_mem_children wellPlaced (mem_children_of_fieldChild? hasArguments) with
    ⟨inArguments, liesIn⟩
  exact inArguments.widen liesIn

theorem fill_invocation {tree receiver arguments : ConcreteTree}
    (wellPlaced : ∀ inner ∈ tree.preorder, WellPlaced inner)
    (hasArguments : tree.fieldChild? "arguments" = some arguments)
    (liesIn : receiver.LiesIn tree) (precedes : receiver.Precedes arguments) :
    tree.Fill (receiver :: arguments.parts) := by
  have onlyReceiver : tree.Fill [receiver] :=
    ⟨by simpa using liesIn, List.pairwise_singleton _ _⟩
  refine onlyReceiver.append (fill_arguments wellPlaced hasArguments) ?_
  intro first isFirst argument isArgument
  cases List.mem_singleton.mp isFirst
  rcases fill_parts_of_mem_children wellPlaced (mem_children_of_fieldChild? hasArguments) with
    ⟨inArguments, _⟩
  exact precedes_of_liesIn precedes (inArguments.within argument isArgument)

/-- The object of a call, extended up to the end of a `super` that follows it. -/
def extended (object superTree : ConcreteTree) : ConcreteTree :=
  .node { object.label with stop := superTree.label.stop } [object]

theorem extended_liesIn {tree object superTree : ConcreteTree} (here : WellPlaced tree)
    (isKind : tree.kind = "method_invocation")
    (hasObject : tree.fieldChild? "object" = some object) (isSuper : superTree ∈ tree.supers) :
    (extended object superTree).LiesIn tree ∧ object.LiesIn (extended object superTree) := by
  have objectIn := here.children.within object (mem_children_of_fieldChild? hasObject)
  have superIn := here.children.within superTree (mem_children_of_mem_supers isSuper)
  have objectStop : object.label.stop ≤ superTree.label.stop :=
    Nat.le_trans (here.objectFirst isKind object hasObject superTree isSuper) superIn.ordered
  exact ⟨⟨objectIn.start, Nat.le_trans objectIn.ordered objectStop, superIn.stop⟩,
    ⟨Nat.le_refl _, objectIn.ordered, objectStop⟩⟩

/-- The children of a lowered node lie in its span, one after another. -/
theorem nested_of_lowers {setting : Setting} {tree : ConcreteTree} {node : Node}
    (wellPlaced : ∀ inner ∈ tree.preorder, WellPlaced inner) (lowers : Lowers setting tree node) :
    node.Nested := by
  have here := wellPlaced tree tree.mem_preorder_self
  have noChildren : (setting.span tree).Holds [] := ⟨by simp, .nil⟩
  cases lowers with
  | @bodiless _ nameTree name header isKind hasName isName noBody headerLowers =>
      change (setting.span tree).Holds (header ++ [])
      rw [List.append_nil]
      exact holds_of_fill (here.children.sublist (tree.partsExcept_sublist _))
        (covers_of_lowers headerLowers)
  | declaration isKind hasName isName hasBody headerLowers bodyLowers =>
      exact holds_of_fill (fill_declaration wellPlaced isKind hasBody)
        (covers_of_lowers (List.rel_append headerLowers bodyLowers))
  | call isKind hasName isName hasArguments noObject argumentsLower =>
      exact holds_of_fill (fill_arguments wellPlaced hasArguments) (covers_of_lowers argumentsLower)
  | callOn isKind hasName isName hasArguments hasObject isReceiver receiverLowers argumentsLower =>
      have liesIn := here.children.within _ (mem_children_of_fieldChild? hasObject)
      have precedes := (here.argumentsLast isKind _ hasObject _ hasArguments).1
      exact holds_of_fill (fill_invocation wellPlaced hasArguments liesIn precedes)
        (covers_of_lowers (.cons receiverLowers argumentsLower))
  | callOnSuper isKind hasName isName hasArguments hasObject isReceiver receiverLowers
      argumentsLower =>
      rcases receiverOn_eq_qualifiedSuper isReceiver with ⟨superTree, isSuper, rfl⟩
      have liesIn := (extended_liesIn here isKind hasObject isSuper).1
      have precedes := (here.argumentsLast isKind _ hasObject _ hasArguments).2 superTree isSuper
      exact holds_of_fill (fill_invocation wellPlaced hasArguments liesIn precedes)
        (.cons rfl (covers_of_lowers argumentsLower))
  | variableDeclaration isKind fragmentsLower =>
      exact holds_of_fill (here.children.sublist List.filter_sublist)
        (covers_of_lowers fragmentsLower)
  | uninitialized => exact noChildren
  | @initialized _ nameTree value name initializer isKind hasName isName hasValue valueLowers =>
      have onlyValue : tree.Fill [value] := by
        apply here.children.sublist
        rw [List.singleton_sublist]
        exact mem_children_of_fieldChild? hasValue
      exact holds_of_fill onlyValue (covers_of_lowers (.cons valueLowers .nil))
  | literal => exact noChildren
  | expression notDedicated noLiteral partsLower =>
      exact holds_of_fill (here.children.sublist List.filter_sublist) (covers_of_lowers partsLower)

theorem nested_of_standsForSuper {setting : Setting} {tree : ConcreteTree} {node : Node}
    (wellPlaced : ∀ inner ∈ tree.preorder, WellPlaced inner)
    (standsForSuper : StandsForSuper setting tree node) : node.Nested := by
  cases standsForSuper with
  | @intro object span receiver isKind hasObject isReceiver receiverLowers =>
      rcases receiverOn_eq_qualifiedSuper isReceiver with ⟨superTree, isSuper, rfl⟩
      have here := wellPlaced tree tree.mem_preorder_self
      have liesIn := (extended_liesIn here isKind hasObject isSuper).2
      have onlyObject : (extended object superTree).Fill [object] :=
        ⟨by simpa using liesIn, List.pairwise_singleton _ _⟩
      exact holds_of_fill onlyObject (covers_of_lowers (.cons receiverLowers .nil))

theorem nested_of_mem_subtrees {setting : Setting} {tree : ConcreteTree} {node : Node}
    (wellPlaced : ∀ inner ∈ tree.preorder, WellPlaced inner) (lowers : Lowers setting tree node) :
    ∀ inner ∈ node.subtrees, inner.Nested :=
  forall_subtrees_of_lowers (fun _ _ => nested_of_lowers) (fun _ _ => nested_of_standsForSuper)
    wellPlaced lowers

theorem holds_lowerParts {setting : Setting} {tree : ConcreteTree} {items : List Node}
    (wellPlaced : ∀ inner ∈ tree.preorder, WellPlaced inner)
    (isLowered : lowerParts setting tree = .ok items) : (setting.span tree).Holds items := by
  have here := wellPlaced tree tree.mem_preorder_self
  exact holds_of_fill (here.children.sublist List.filter_sublist)
    (covers_of_lowers (lowerAll_eq_ok_iff.mp isLowered))

theorem nested_of_lowerParts {setting : Setting} {tree : ConcreteTree} {items : List Node}
    (wellPlaced : ∀ inner ∈ tree.preorder, WellPlaced inner)
    (isLowered : lowerParts setting tree = .ok items) :
    ∀ item ∈ items, ∀ inner ∈ item.subtrees, inner.Nested := by
  intro item isItem
  rcases exists_of_mem_right (lowerAll_eq_ok_iff.mp isLowered) isItem with ⟨part, isPart, lowers⟩
  exact nested_of_mem_subtrees
    (forall_preorder_of_mem_children wellPlaced (mem_children_of_mem_parts isPart)) lowers

/--
The children of every node that a well-placed tree is lowered to lie in the span of the node, one
after another as they are declared, so that sorting them changes nothing. The same holds if only
the parts of a tree are lowered.
-/
theorem lower_keeps_nesting {setting : Setting} {tree : ConcreteTree}
    (wellPlaced : ∀ inner ∈ tree.preorder, WellPlaced inner) :
    (∀ node, lower setting tree = .ok node →
      ∀ inner ∈ node.subtrees, inner.Nested ∧ inner.children = inner.declaredChildren) ∧
      ∀ items, lowerParts setting tree = .ok items →
        (setting.span tree).Holds items ∧ items.mergeSort Node.startsBefore = items ∧
          ∀ item ∈ items, ∀ inner ∈ item.subtrees,
            inner.Nested ∧ inner.children = inner.declaredChildren := by
  constructor
  · intro node isLowered inner isInner
    rw [lower_eq_lowerTree, lowerTree_eq_ok_iff] at isLowered
    have nested := nested_of_mem_subtrees wellPlaced isLowered inner isInner
    exact ⟨nested, Node.children_eq_of_nested nested⟩
  · intro items isLowered
    have holds := holds_lowerParts wellPlaced isLowered
    refine ⟨holds, Node.mergeSort_eq_of_apart holds.apart, ?_⟩
    intro item isItem inner isInner
    have nested := nested_of_lowerParts wellPlaced isLowered item isItem inner isInner
    exact ⟨nested, Node.children_eq_of_nested nested⟩

/-! ## A call on a qualified `super` -/

namespace SuperCall

/-- A call on the methods of an outer class. -/
def text : String := "A.super.h(g(), 1)"

/-- The tree that the grammar makes of the call. -/
def tree : ConcreteTree :=
  namedNode "method_invocation" none 0 17 [
    namedNode "identifier" (some "object") 0 1 [],
    tokenNode "." 1,
    namedNode "super" none 2 7 [],
    tokenNode "." 7,
    namedNode "identifier" (some "name") 8 9 [],
    namedNode "argument_list" (some "arguments") 9 17 [
      tokenNode "(" 9,
      namedNode "method_invocation" none 10 13 [
        namedNode "identifier" (some "name") 10 11 [],
        namedNode "argument_list" (some "arguments") 11 13 [tokenNode "(" 11, tokenNode ")" 12]],
      tokenNode "," 13,
      namedNode "decimal_integer_literal" none 15 16 [],
      tokenNode ")" 16]]

/-- What the call is lowered to with a shift that cuts through the `super`. -/
def node : Node :=
  .methodInvocation ⟨0, 14⟩ "h"
    (some (.expression ⟨0, 4⟩ qualifiedSuperKind [.expression ⟨0, 0⟩ "identifier" []]))
    [.methodInvocation ⟨7, 3⟩ "g" none [], .literal ⟨12, 1⟩ .integer]

theorem lower_tree : lower ⟨text.toUTF8, 3⟩ tree = .ok node := by
  rw [lower_eq_lowerTree, lowerTree_eq_ok_iff]
  refine .callOnSuper rfl rfl (by decide) rfl rfl rfl (.expression (by decide) rfl .nil) ?_
  exact .cons (.call rfl rfl (by decide) rfl rfl .nil) (.cons (.literal rfl) .nil)

/-- The spans of the call are nested, also where the shift has cut them. -/
theorem lower_superCall_nested :
    (∀ inner ∈ tree.preorder, WellPlaced inner) ∧ lower ⟨text.toUTF8, 3⟩ tree = .ok node ∧
      ∀ inner ∈ node.subtrees, inner.Nested ∧ inner.children = inner.declaredChildren := by
  have wellPlaced : ∀ inner ∈ tree.preorder, WellPlaced inner := by decide
  exact ⟨wellPlaced, lower_tree, (lower_keeps_nesting wellPlaced).1 node lower_tree⟩

end SuperCall

end Lowering

end JavaFacts
