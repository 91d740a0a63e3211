import JavaFacts.Proofs.ConcreteNodes

/-!
# What lowering enters

Lowering does not enter all of a tree. Below a literal it enters nothing, below a call only the
object and the arguments, below a declaration of local variables only the declarators, and below a
declarator only the value. This is said here for concrete trees alone: a child is shown or hidden.
The nodes of a tree are those that are shown, and those in hidden children of shown ones.

A call and a declarator have their shown children in fields, and a declaration its name and its
body; so the children of a node are also split into those in given fields and all others.
-/

namespace JavaFacts

namespace ConcreteTree

/-- Whether a child is entered when its parent is lowered. -/
def shows (tree child : ConcreteTree) : Bool :=
  if tree.kind = "method_invocation" then child.isInField "object" || child.isInField "arguments"
  else if tree.kind = "local_variable_declaration" then child.isInField "declarator"
  else if tree.kind = "variable_declarator" then child.isInField "value"
  else (LiteralKind.ofGrammarKind? tree.kind).isNone

/-- The children that are entered. -/
def shownChildren (tree : ConcreteTree) : List ConcreteTree := tree.children.filter tree.shows

/-- The children that are not entered. -/
def hiddenChildren (tree : ConcreteTree) : List ConcreteTree :=
  tree.children.filter fun child => !tree.shows child

mutual

/-- All nodes of a tree that are reached through children that are entered. -/
def shown : ConcreteTree → List ConcreteTree
  | node label children => node label children :: shownAmong (node label children) children

/-- The nodes that are reached through some children of a node. -/
def shownAmong (parent : ConcreteTree) : List ConcreteTree → List ConcreteTree
  | [] => []
  | child :: rest =>
    if parent.shows child then child.shown ++ shownAmong parent rest else shownAmong parent rest

end

/-- All nodes of a tree that are not reached so. -/
def hidden (tree : ConcreteTree) : List ConcreteTree :=
  (tree.shown.flatMap hiddenChildren).flatMap preorder

theorem shownAmong_eq_flatMap (parent : ConcreteTree) (children : List ConcreteTree) :
    shownAmong parent children = (children.filter parent.shows).flatMap shown := by
  induction children with
  | nil => rw [shownAmong, List.filter_nil, List.flatMap_nil]
  | cons child rest ih =>
      rw [shownAmong, List.filter_cons]
      split
      · rw [List.flatMap_cons, ih]
      · exact ih

theorem shown_eq (tree : ConcreteTree) : tree.shown = tree :: tree.shownChildren.flatMap shown := by
  cases tree with
  | node label children => rw [shown, shownAmong_eq_flatMap, shownChildren, ConcreteTree.children]

theorem hidden_eq (tree : ConcreteTree) :
    tree.hidden = tree.hiddenChildren.flatMap preorder ++ tree.shownChildren.flatMap hidden := by
  rw [hidden, shown_eq, List.flatMap_cons, List.flatMap_append, List.flatMap_assoc (f := shown),
    List.flatMap_assoc]
  rfl

/-- Every node of a tree is either shown or hidden, as often as it occurs. -/
theorem preorder_perm_shown_hidden (tree : ConcreteTree) :
    tree.preorder.Perm (tree.shown ++ tree.hidden) := by
  -- By induction on the size: shown children are split again, hidden ones are taken as a whole.
  have split : (tree.shownChildren ++ tree.hiddenChildren).Perm tree.children :=
    List.filter_append_perm _ _
  have ofShown : (tree.shownChildren.flatMap preorder).Perm
      (tree.shownChildren.flatMap shown ++ tree.shownChildren.flatMap hidden) := by
    refine List.Perm.trans ?_ (List.flatMap_append_perm _ _ _).symm
    apply List.Perm.flatMap_left
    intro child isChild
    exact preorder_perm_shown_hidden child
  have below : (tree.children.flatMap preorder).Perm
      (tree.shownChildren.flatMap shown ++ tree.hidden) := by
    refine (split.symm.flatMap_right preorder).trans ?_
    rw [List.flatMap_append, hidden_eq]
    refine (ofShown.append_right _).trans ?_
    rw [List.append_assoc]
    exact List.perm_append_comm.append_left _
  rw [preorder_eq, shown_eq, List.cons_append]
  exact below.cons tree
termination_by sizeOf tree
decreasing_by exact sizeOf_lt_of_mem_children (List.mem_of_mem_filter isChild)

/-! ## Children in fields -/

/-- The children that do not stand at one of the given places. -/
def childrenExcept (tree : ConcreteTree) (places : List (Option Nat)) : List ConcreteTree :=
  pickFrom (fun index => !places.contains (some index)) 0 tree.children

theorem pickFrom_congr {α : Type} {allowed other : Nat → Bool} {start : Nat} (elements : List α)
    (same : ∀ index, start ≤ index → allowed index = other index) :
    pickFrom allowed start elements = pickFrom other start elements := by
  induction elements generalizing start with
  | nil => rfl
  | cons first rest ih =>
      rw [pickFrom, pickFrom, same start (Nat.le_refl _),
        ih fun index isLater => same index (Nat.le_of_succ_le isLater)]

/-- What is picked is split by an element at an allowed place; without the place it is left out. -/
theorem pickFrom_split {α : Type} {allowed fewer : Nat → Bool} {start place : Nat}
    {elements : List α} {element : α} (isThere : elements[place]? = some element)
    (isAllowed : allowed (start + place) = true) (isLeftOut : fewer (start + place) = false)
    (same : ∀ index, index ≠ start + place → allowed index = fewer index) :
    ∃ before after, before.Sublist (elements.take place) ∧
      pickFrom allowed start elements = before ++ element :: after ∧
      pickFrom fewer start elements = before ++ after := by
  induction elements generalizing start place with
  | nil => simp at isThere
  | cons first rest ih =>
      cases place with
      | zero =>
          have isFirst : first = element := by simpa using isThere
          have later : pickFrom allowed (start + 1) rest = pickFrom fewer (start + 1) rest :=
            pickFrom_congr rest fun index isLater => same index (by omega)
          rw [Nat.add_zero] at isAllowed isLeftOut
          refine ⟨[], pickFrom fewer (start + 1) rest, List.nil_sublist _, ?_, ?_⟩
          · rw [pickFrom, if_pos isAllowed, later, isFirst, List.nil_append]
          · rw [pickFrom, if_neg (by simp [isLeftOut]), List.nil_append]
      | succ place =>
          have shifted : start + (place + 1) = start + 1 + place := by omega
          rw [shifted] at isAllowed isLeftOut same
          rcases ih (by simpa using isThere) isAllowed isLeftOut same with
            ⟨before, after, isBefore, picked, pickedFewer⟩
          rw [pickFrom, pickFrom, same start (by omega), picked, pickedFewer]
          split
          · exact ⟨first :: before, after, isBefore.cons_cons first, rfl, rfl⟩
          · exact ⟨before, after, isBefore.cons first, rfl, rfl⟩

theorem fieldChild?_eq_find? (tree : ConcreteTree) (field : String) :
    tree.fieldChild? field = tree.children.find? (isInField field) :=
  List.find?_eq_bind_findIdx?_getElem?.symm

theorem fieldIndex?_eq_none {tree : ConcreteTree} {field : String}
    (noChild : tree.fieldChild? field = none) : tree.fieldIndex? field = none := by
  rw [fieldChild?_eq_find?, List.find?_eq_none] at noChild
  rw [fieldIndex?, List.findIdx?_eq_none_iff]
  simpa using noChild

theorem fieldIndex?_ne_of_ne {tree : ConcreteTree} {field other : String} {place : Nat}
    (isPlace : tree.fieldIndex? field = some place) (isOther : field ≠ other) :
    tree.fieldIndex? other ≠ some place := by
  intro isOtherPlace
  rcases List.findIdx?_eq_some_iff_getElem.mp isPlace with ⟨inBounds, isHere, _⟩
  rcases List.findIdx?_eq_some_iff_getElem.mp isOtherPlace with ⟨_, isThere, _⟩
  simp only [isInField, beq_iff_eq] at isHere isThere
  exact isOther (Option.some.inj (isHere.symm.trans isThere))

theorem childrenExcept_split {tree child : ConcreteTree} {place : Nat}
    {places : List (Option Nat)} (isThere : tree.children[place]? = some child)
    (notYet : some place ∉ places) :
    ∃ before after, before.Sublist (tree.children.take place) ∧
      tree.childrenExcept places = before ++ child :: after ∧
      tree.childrenExcept (some place :: places) = before ++ after := by
  apply pickFrom_split isThere
  · simpa using notYet
  · simp
  · intro index isOther
    simp only [Nat.zero_add] at isOther
    simp [isOther]

/-- A field can be taken out of the children, unless it is left out already. -/
theorem childrenExcept_perm {tree : ConcreteTree} {field : String} {places : List (Option Nat)}
    (notYet : ∀ place, tree.fieldIndex? field = some place → some place ∉ places) :
    (tree.childrenExcept places).Perm
      ((tree.fieldChild? field).toList ++
        tree.childrenExcept (tree.fieldIndex? field :: places)) := by
  rcases isChild : tree.fieldChild? field with _ | child
  · rw [fieldIndex?_eq_none isChild, Option.toList_none, List.nil_append]
    apply List.Perm.of_eq
    apply pickFrom_congr
    intro index _
    simp
  · rcases Lowering.fieldChild?_eq_some isChild with ⟨place, isPlace, isThere⟩
    rw [isPlace, Option.toList_some, List.singleton_append]
    rcases childrenExcept_split isThere (notYet place isPlace) with
      ⟨before, after, _, isSplit, isSplitWithout⟩
    rw [isSplit, isSplitWithout]
    exact List.perm_middle

theorem childrenExcept_nil (tree : ConcreteTree) : tree.childrenExcept [] = tree.children := by
  rw [childrenExcept]
  generalize 0 = start
  induction tree.children generalizing start with
  | nil => rfl
  | cons first rest ih => rw [pickFrom, if_pos (by simp), ih]

/-- The children are those in two fields and all others. -/
theorem children_perm_fields (tree : ConcreteTree) {left right : String} (areTwo : left ≠ right) :
    tree.children.Perm ((tree.fieldChild? right).toList ++ ((tree.fieldChild? left).toList ++
      tree.childrenExcept [tree.fieldIndex? left, tree.fieldIndex? right])) := by
  rw [← childrenExcept_nil]
  refine (@childrenExcept_perm tree right [] (by simp)).trans (List.Perm.append_left _ ?_)
  apply childrenExcept_perm
  intro place isPlace isThere
  exact fieldIndex?_ne_of_ne isPlace areTwo (List.mem_singleton.mp isThere).symm

/-- If a field has one child at most, it is the child that belongs to the field. -/
theorem fieldChildren_eq_toList {tree : ConcreteTree} {field : String}
    (single : (tree.fieldChildren field).length ≤ 1) :
    tree.fieldChildren field = (tree.fieldChild? field).toList := by
  rw [fieldChild?_eq_find?, ← List.head?_filter]
  change _ = (tree.fieldChildren field).head?.toList
  generalize tree.fieldChildren field = children at single ⊢
  rcases children with _ | ⟨child, _ | ⟨other, rest⟩⟩
  · rfl
  · rfl
  · simp at single

end ConcreteTree

end JavaFacts
