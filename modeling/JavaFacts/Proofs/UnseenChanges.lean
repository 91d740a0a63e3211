import JavaFacts.Proofs.ShownNodes

/-!
# Changes that lowering does not see

Lowering looks at the parts of a node, at the children in its fields, at names and at ranges without
the shift. So it cannot tell a tree from one in which all these are the same. The trees considered
here are made by a change that leaves out some children of every node, none of them a part or found
in a field, and changes the others in the same way. The plan of a node then has the same shape, with
the changed trees in the same places, and by induction both trees are lowered to the same node, or
fail with the same defect.

There are two such changes. A tree can be moved together with its text behind other bytes, which the
shift then takes off again. And all comments can be left out.
-/

namespace JavaFacts

/-! ## Lists without some elements -/

namespace InOrder

variable {α : Type} {test other keep : α → Bool} {elements : List α}

theorem findIdx?_and_of_kept (firstIsKept : ∀ first ∈ elements.find? test, keep first) :
    elements.findIdx? (fun element => test element && keep element) =
      elements.findIdx? test := by
  induction elements with
  | nil => rfl
  | cons first rest ih =>
      by_cases isFound : test first
      · have isKept : keep first := firstIsKept first (by simp [isFound])
        simp [List.findIdx?_cons, isFound, isKept]
      · have later := ih (by simpa [isFound] using firstIsKept)
        simp [List.findIdx?_cons, isFound, later]

theorem find?_filter_of_kept (firstIsKept : ∀ first ∈ elements.find? test, keep first) :
    (elements.filter keep).find? test = elements.find? test := by
  have sameTest : (fun element => decide (keep element = true ∧ test element = true)) =
      fun element => test element && keep element := by
    funext element
    simp [and_comm]
  rw [List.find?_filter, sameTest, List.find?_eq_bind_findIdx?_getElem?,
    findIdx?_and_of_kept firstIsKept, ← List.find?_eq_bind_findIdx?_getElem?]

theorem eraseP_filter_of_kept (firstIsKept : ∀ first ∈ elements.find? test, keep first) :
    (elements.filter keep).eraseP test = (elements.eraseP test).filter keep := by
  rw [List.eraseP_filter, List.eraseP_eq_eraseIdx, findIdx?_and_of_kept firstIsKept,
    ← List.eraseP_eq_eraseIdx]

theorem find?_eraseP_of_apart (apart : ∀ element, test element → other element = false) :
    (elements.eraseP test).find? other = elements.find? other := by
  induction elements with
  | nil => rfl
  | cons first rest ih =>
      by_cases isErased : test first
      · simp [isErased, apart first isErased]
      · by_cases isFound : other first <;> simp [isErased, isFound, ih]

end InOrder

open InOrder

namespace ConcreteTree

/-! ## Children beside those in given fields -/

/-- Children without the first one in each of some fields. -/
def beside (fields : List String) (children : List ConcreteTree) : List ConcreteTree :=
  fields.foldr (fun field rest => rest.eraseP (isInField field)) children

theorem not_isInField_of_ne {field other : String} (isOther : field ≠ other)
    {tree : ConcreteTree} (isIn : tree.isInField field) : tree.isInField other = false := by
  simp only [isInField, beq_iff_eq] at isIn
  simpa [isInField, isIn] using isOther

theorem find?_beside {field : String} {fields : List String} (isOther : field ∉ fields)
    (children : List ConcreteTree) :
    (beside fields children).find? (isInField field) = children.find? (isInField field) := by
  induction fields with
  | nil => rfl
  | cons first rest ih =>
      simp only [List.mem_cons, not_or] at isOther
      rw [← ih isOther.2]
      exact find?_eraseP_of_apart fun _ => not_isInField_of_ne (Ne.symm isOther.1)

/-- Leaving out the place of a field is to leave out the first child in it. -/
theorem childrenExcept_fieldIndex? {tree : ConcreteTree} {field : String}
    {places : List (Option Nat)}
    (notYet : ∀ place, tree.fieldIndex? field = some place → some place ∉ places) :
    tree.childrenExcept (tree.fieldIndex? field :: places) =
      (tree.childrenExcept places).eraseP (isInField field) := by
  rcases isPlace : tree.fieldIndex? field with _ | place
  · have noneInField : ∀ child ∈ tree.children, ¬child.isInField field := by
      simpa [fieldIndex?, List.findIdx?_eq_none_iff] using isPlace
    rw [List.eraseP_of_forall_not]
    · apply pickFrom_congr
      intro index _
      simp
    · intro child isChild
      exact noneInField child ((pickFrom_sublist _ 0 _).subset isChild)
  · rcases List.findIdx?_eq_some_iff_getElem.mp isPlace with ⟨inBounds, isIn, notEarlier⟩
    rcases childrenExcept_split (List.getElem?_eq_getElem inBounds) (notYet place isPlace) with
      ⟨before, after, isBefore, isSplit, isSplitWithout⟩
    have notBefore : ∀ child ∈ before, ¬child.isInField field := by
      intro child isChild
      rcases List.mem_take_iff_getElem.mp (isBefore.subset isChild) with ⟨index, inTake, rfl⟩
      exact notEarlier index (by omega)
    rw [isSplit, isSplitWithout, List.eraseP_append_right _ notBefore,
      List.eraseP_cons_of_pos isIn]

theorem childrenExcept_eq_beside (tree : ConcreteTree) {fields : List String}
    (areDifferent : fields.Nodup) :
    tree.childrenExcept (fields.map tree.fieldIndex?) = beside fields tree.children := by
  induction fields with
  | nil => exact tree.childrenExcept_nil
  | cons field fields ih =>
      rcases List.nodup_cons.mp areDifferent with ⟨isNew, areDifferent⟩
      change _ = (beside fields tree.children).eraseP (isInField field)
      rw [← ih areDifferent, List.map_cons, childrenExcept_fieldIndex?]
      intro place isPlace isThere
      rcases List.mem_map.mp isThere with ⟨other, isOther, otherPlace⟩
      have areTwo : field ≠ other := by
        rintro rfl
        exact isNew isOther
      exact fieldIndex?_ne_of_ne isPlace areTwo otherPlace

theorem partsExcept_eq_beside (tree : ConcreteTree) {fields : List String}
    (areDifferent : fields.Nodup) :
    tree.partsExcept (fields.map tree.fieldIndex?) =
      (beside fields tree.children).filter isPart := by
  rw [← childrenExcept_eq_beside tree areDifferent]
  rfl

theorem beside_map {change : ConcreteTree → ConcreteTree}
    (isInField_change : ∀ field tree, (change tree).isInField field = tree.isInField field)
    (fields : List String) (children : List ConcreteTree) :
    beside fields (children.map change) = (beside fields children).map change := by
  induction fields with
  | nil => rfl
  | cons field fields ih =>
      have sameTest : isInField field ∘ change = isInField field :=
        funext (isInField_change field)
      change (beside fields (children.map change)).eraseP _ = _
      rw [ih, List.eraseP_map, sameTest]
      rfl

theorem beside_filter {keep : ConcreteTree → Bool} {fields : List String}
    (areDifferent : fields.Nodup) {children : List ConcreteTree}
    (areKept : ∀ field, ∀ child ∈ children.find? (isInField field), keep child) :
    beside fields (children.filter keep) = (beside fields children).filter keep := by
  induction fields with
  | nil => rfl
  | cons field fields ih =>
      rcases List.nodup_cons.mp areDifferent with ⟨isOther, areDifferent⟩
      change (beside fields (children.filter keep)).eraseP _ = _
      rw [ih areDifferent]
      apply eraseP_filter_of_kept
      rw [find?_beside isOther]
      exact areKept field

/-! ## Trees with fewer children -/

/--
A change of trees that leaves out the children that are not kept, none of them a part, and
makes the same change in all others.
-/
structure Thins (change : ConcreteTree → ConcreteTree) (keep : ConcreteTree → Bool) : Prop where
  kind : ∀ tree, (change tree).kind = tree.kind
  isPart : ∀ tree, (change tree).isPart = tree.isPart
  isInField : ∀ field tree, (change tree).isInField field = tree.isInField field
  children : ∀ tree, (change tree).children = (tree.children.filter keep).map change
  keepsParts : ∀ tree, tree.isPart → keep tree

/-- What is looked up in a field of a node is kept: the first child there, and all declarators. -/
structure FieldsKept (keep : ConcreteTree → Bool) (tree : ConcreteTree) : Prop where
  first : ∀ field, ∀ child ∈ tree.fieldChild? field, keep child
  declarators : ∀ child ∈ tree.fieldChildren "declarator", keep child

namespace Thins

variable {change : ConcreteTree → ConcreteTree} {keep : ConcreteTree → Bool}
  (thins : Thins change keep) {tree : ConcreteTree}

include thins

theorem filter_isPart (children : List ConcreteTree) :
    ((children.filter keep).map change).filter ConcreteTree.isPart =
      (children.filter ConcreteTree.isPart).map change := by
  have sameTest : ConcreteTree.isPart ∘ change = ConcreteTree.isPart := funext thins.isPart
  rw [List.filter_map, sameTest, List.filter_filter]
  congr 1
  apply List.filter_congr
  intro child _
  by_cases isPart : child.isPart <;> simp [isPart, thins.keepsParts child]

theorem parts (tree : ConcreteTree) : (change tree).parts = tree.parts.map change := by
  rw [ConcreteTree.parts, thins.children, thins.filter_isPart]
  rfl

theorem fieldChild? (kept : FieldsKept keep tree) (field : String) :
    (change tree).fieldChild? field = (tree.fieldChild? field).map change := by
  have sameTest : ConcreteTree.isInField field ∘ change = ConcreteTree.isInField field :=
    funext (thins.isInField field)
  have firstIsKept := kept.first field
  rw [fieldChild?_eq_find?] at firstIsKept
  rw [fieldChild?_eq_find?, fieldChild?_eq_find?, thins.children, List.find?_map, sameTest,
    find?_filter_of_kept firstIsKept]

theorem declarators (kept : FieldsKept keep tree) :
    (change tree).fieldChildren "declarator" = (tree.fieldChildren "declarator").map change := by
  have sameTest : ConcreteTree.isInField "declarator" ∘ change =
      ConcreteTree.isInField "declarator" := funext (thins.isInField "declarator")
  rw [fieldChildren, thins.children, List.filter_map, sameTest, List.filter_filter, fieldChildren]
  congr 1
  apply List.filter_congr
  intro child isChild
  by_cases isDeclarator : child.isInField "declarator"
  · have isKept := kept.declarators child (List.mem_filter.mpr ⟨isChild, isDeclarator⟩)
    simp [isKept]
  · simp [isDeclarator]

theorem partsExcept (kept : FieldsKept keep tree) {fields : List String}
    (areDifferent : fields.Nodup) :
    (change tree).partsExcept (fields.map (change tree).fieldIndex?) =
      (tree.partsExcept (fields.map tree.fieldIndex?)).map change := by
  have firstAreKept : ∀ field, ∀ child ∈ tree.children.find? (ConcreteTree.isInField field),
      keep child := by
    intro field
    rw [← fieldChild?_eq_find?]
    exact kept.first field
  rw [partsExcept_eq_beside _ areDifferent, partsExcept_eq_beside _ areDifferent, thins.children,
    beside_map thins.isInField, beside_filter areDifferent firstAreKept, thins.filter_isPart]

end Thins

end ConcreteTree

namespace Lowering

open ConcreteTree

/-! ## The same plan -/

/-- The plan with other trees in the place of the children. -/
def Plan.mapChildren (change : ConcreteTree → ConcreteTree) : Plan → Plan
  | .leaf literal => .leaf literal
  | .branch pending children => .branch pending (children.map change)

/-- Changed trees have the same texts and spans in another setting. -/
structure SeesSame (here there : Setting) (change : ConcreteTree → ConcreteTree) : Prop where
  text : ∀ tree, there.text (change tree) = here.text tree
  spanOf : ∀ first last : ConcreteTree,
    there.spanOf (change first).label.start (change last).label.stop =
      here.spanOf first.label.start last.label.stop

section

variable {here there : Setting} {change : ConcreteTree → ConcreteTree}
  {keep : ConcreteTree → Bool} {tree : ConcreteTree}
  (thins : Thins change keep) (sees : SeesSame here there change) (kept : FieldsKept keep tree)

include sees in
theorem branch_changed (shape : Shape) (children : List ConcreteTree) :
    branch there (change tree) shape (children.map change) =
      (branch here tree shape children).mapChildren change := by
  simp only [branch, Setting.span, sees.spanOf, List.length_map, Plan.mapChildren]

include thins kept

theorem headerParts_changed : headerParts (change tree) = (headerParts tree).map change := by
  have areDifferent : ["name", "body"].Nodup := by decide
  exact thins.partsExcept kept areDifferent

theorem bodyParts_changed : bodyParts (change tree) = (bodyParts tree).map change := by
  rw [bodyParts, thins.fieldChild? kept, bodyParts]
  cases tree.fieldChild? "body" with
  | none => rfl
  | some body => exact thins.parts body

include sees

theorem requiredChild_changed (field : String) :
    there.requiredChild (change tree) field = (here.requiredChild tree field).map change := by
  have sameStart : (change tree).label.start - there.shift = tree.label.start - here.shift :=
    congrArg Span.start (sees.spanOf tree tree)
  rw [Setting.requiredChild, thins.fieldChild? kept, Setting.requiredChild]
  cases tree.fieldChild? field with
  | none => simp [Except.map, thins.kind, sameStart]
  | some child => rfl

theorem receiverOn_changed (object : ConcreteTree) :
    receiverOn there (change tree) (change object) = receiverOn here tree object := by
  have sameTest : (fun child : ConcreteTree => child.kind == "super") ∘ change =
      fun child => child.kind == "super" := by
    funext child
    simp [thins.kind]
  have areDifferent : ["object"].Nodup := by decide
  have others := thins.partsExcept kept areDifferent
  simp only [List.map_cons, List.map_nil] at others
  rw [receiverOn, others, List.find?_map, sameTest, receiverOn]
  cases (tree.partsExcept [tree.fieldIndex? "object"]).find? (·.kind == "super") with
  | none => rfl
  | some superTree => simp [sees.spanOf]

theorem planDeclaration_changed :
    planDeclaration there (change tree) =
      (planDeclaration here tree).map (Plan.mapChildren change) := by
  have header := headerParts_changed thins kept
  have body := bodyParts_changed thins kept
  simp only [headerParts, bodyParts] at header body
  rw [planDeclaration, requiredChild_changed thins sees kept, planDeclaration]
  rcases here.requiredChild tree "name" with defect | nameTree
  · rfl
  · simp only [bind, Except.bind, Except.map, sees.text, header, body]
    rcases here.text nameTree with defect | name
    · rfl
    · simp [pure, Except.pure, ← branch_changed sees, thins.fieldChild? kept]

theorem planInvocation_changed :
    planInvocation there (change tree) =
      (planInvocation here tree).map (Plan.mapChildren change) := by
  rw [planInvocation, requiredChild_changed thins sees kept, requiredChild_changed thins sees kept,
    thins.fieldChild? kept, planInvocation]
  rcases here.requiredChild tree "name" with defect | nameTree
  · rfl
  rcases here.requiredChild tree "arguments" with defect | arguments
  · rfl
  · simp only [bind, Except.bind, Except.map, sees.text, thins.parts]
    rcases here.text nameTree with defect | name
    · rfl
    rcases tree.fieldChild? "object" with _ | object
    · simp [pure, Except.pure, ← branch_changed sees]
    · simp [pure, Except.pure, ← branch_changed sees, receiverOn_changed thins sees kept]

theorem planFragment_changed :
    planFragment there (change tree) =
      (planFragment here tree).map (Plan.mapChildren change) := by
  rw [planFragment, requiredChild_changed thins sees kept, thins.fieldChild? kept, planFragment]
  rcases here.requiredChild tree "name" with defect | nameTree
  · rfl
  · simp only [bind, Except.bind, Except.map, sees.text]
    rcases here.text nameTree with defect | name
    · rfl
    · simp [pure, Except.pure, ← branch_changed sees, Option.toList_map]

/-- A changed tree has the same plan, with the changed trees in the place of the others. -/
theorem plan_changed :
    plan there (change tree) = (plan here tree).map (Plan.mapChildren change) := by
  rw [plan, plan, thins.kind]
  split
  · exact planDeclaration_changed thins sees kept
  split
  · exact planInvocation_changed thins sees kept
  split
  · rw [thins.declarators kept, branch_changed sees]
    rfl
  split
  · exact planFragment_changed thins sees kept
  · cases LiteralKind.ofGrammarKind? tree.kind with
    | none =>
        rw [thins.parts, branch_changed sees]
        rfl
    | some kind => simp [Setting.span, sees.spanOf, Except.map, Plan.mapChildren]

end

/-! ## The same result -/

section

variable {here there : Setting} {change : ConcreteTree → ConcreteTree}
  {keep : ConcreteTree → Bool} (thins : Thins change keep) (sees : SeesSame here there change)

include thins sees

/-- A tree is lowered as it was before a change that keeps what is looked up anywhere in it. -/
theorem lowerTree_changed {tree : ConcreteTree}
    (kept : ∀ inner ∈ tree.preorder, FieldsKept keep inner) :
    lowerTree there (change tree) = lowerTree here tree := by
  -- By induction on the size of the tree, along the trees that it is planned with.
  rw [lowerTree_eq, plan_changed thins sees (kept tree tree.mem_preorder_self), lowerTree_eq]
  rcases isPlan : plan here tree with defect | leaf | ⟨pending, children⟩
  · rfl
  · rfl
  · have areLowered : (children.map change).mapM (lowerTree there) =
        children.mapM (lowerTree here) := by
      apply mapM_map_congr
      intro child isChild
      exact lowerTree_changed (forall_preorder_of_plans kept (plans_of_plan isPlan) isChild)
    simp only [Except.map, Plan.mapChildren, areLowered]
termination_by sizeOf tree
decreasing_by exact sizeOf_lt_of_mem_planned isPlan isChild

theorem lower_changed {tree : ConcreteTree}
    (kept : ∀ inner ∈ tree.preorder, FieldsKept keep inner) :
    lower there (change tree) = lower here tree := by
  rw [lower_eq_lowerTree, lower_eq_lowerTree, lowerTree_changed thins sees kept]

theorem lowerParts_changed {tree : ConcreteTree}
    (kept : ∀ inner ∈ tree.preorder, FieldsKept keep inner) :
    lowerParts there (change tree) = lowerParts here tree := by
  rw [lowerParts, thins.parts, lowerAll_eq_mapM, lowerParts, lowerAll_eq_mapM]
  apply mapM_map_congr
  intro part isPart
  have isChild := mem_children_of_mem_parts isPart
  exact lowerTree_changed thins sees (forall_preorder_of_mem_children kept isChild)

end

end Lowering

/-! ## A tree behind other bytes -/

namespace ConcreteTree

/-- The tree with all ranges moved by a distance. -/
def moved (distance : Nat) : ConcreteTree → ConcreteTree
  | node label children =>
    node { label with start := label.start + distance, stop := label.stop + distance }
      (children.map (moved distance))

theorem label_moved (distance : Nat) (tree : ConcreteTree) :
    (tree.moved distance).label =
      { tree.label with
        start := tree.label.start + distance
        stop := tree.label.stop + distance } := by
  cases tree with
  | node label children =>
      rw [moved]
      rfl

theorem children_moved (distance : Nat) (tree : ConcreteTree) :
    (tree.moved distance).children = tree.children.map (moved distance) := by
  cases tree with
  | node label children =>
      rw [moved]
      rfl

theorem thins_moved (distance : Nat) : Thins (moved distance) fun _ => true where
  kind tree := by simp [kind, label_moved]
  isPart tree := by simp [isPart, label_moved]
  isInField field tree := by simp [isInField, label_moved]
  children tree := by simp [children_moved]
  keepsParts := by simp

end ConcreteTree

namespace Lowering

open ConcreteTree

theorem seesSame_moved (front bytes : ByteArray) :
    SeesSame ⟨bytes, 0⟩ ⟨front ++ bytes, front.size⟩ (moved front.size) where
  text tree := by
    have sameBytes := ByteArray.extract_append_size_add (a := front) (b := bytes)
      (i := tree.label.start) (j := tree.label.stop)
    simp only [Setting.text, label_moved, kind, Nat.add_comm _ front.size, sameBytes]
  spanOf first last := by simp [Setting.spanOf, label_moved]

/--
A tree that is moved together with its bytes behind others is lowered to the same node or fails with
the same defect, if the shift is the number of bytes in front. Names are read at the moved places,
and all offsets in spans and defects are those of the tree as it was.
-/
theorem lower_behind (front bytes : ByteArray) (tree : ConcreteTree) :
    lower ⟨front ++ bytes, front.size⟩ (tree.moved front.size) = lower ⟨bytes, 0⟩ tree ∧
      lowerParts ⟨front ++ bytes, front.size⟩ (tree.moved front.size) =
        lowerParts ⟨bytes, 0⟩ tree := by
  have kept : ∀ inner ∈ tree.preorder, FieldsKept (fun _ => true) inner :=
    fun inner _ => ⟨by simp, by simp⟩
  have thins := thins_moved front.size
  have sees := seesSame_moved front bytes
  exact ⟨lower_changed thins sees kept, lowerParts_changed thins sees kept⟩

end Lowering

/-! ## A tree without comments -/

namespace ConcreteTree

def isNoExtra (tree : ConcreteTree) : Bool := !tree.label.extra

/-- The tree without the extras among the children of any node. -/
def withoutExtras : ConcreteTree → ConcreteTree
  | node label children => node label ((children.filter isNoExtra).map withoutExtras)

@[simp]
theorem label_withoutExtras (tree : ConcreteTree) : tree.withoutExtras.label = tree.label := by
  cases tree with
  | node label children =>
      rw [withoutExtras]
      rfl

theorem children_withoutExtras (tree : ConcreteTree) :
    tree.withoutExtras.children = (tree.children.filter isNoExtra).map withoutExtras := by
  cases tree with
  | node label children =>
      rw [withoutExtras]
      rfl

theorem isNoExtra_of_isPart {tree : ConcreteTree} (isPart : tree.isPart) : tree.isNoExtra := by
  simp only [ConcreteTree.isPart, Bool.and_eq_true] at isPart
  exact isPart.2

theorem thins_withoutExtras : Thins withoutExtras isNoExtra where
  kind tree := by simp [kind]
  isPart tree := by simp [isPart]
  isInField field tree := by simp [isInField]
  children := children_withoutExtras
  keepsParts _ := isNoExtra_of_isPart

/-- If children that are not kept belong to no field, looking up a field does not find them. -/
theorem fieldsKept_of_no_field {keep : ConcreteTree → Bool} {tree : ConcreteTree}
    (noField : ∀ child ∈ tree.children, keep child ∨ child.label.field = none) :
    FieldsKept keep tree := by
  have inField : ∀ field, ∀ child ∈ tree.children, child.isInField field → keep child := by
    intro field child isChild isIn
    rcases noField child isChild with isKept | isNowhere
    · exact isKept
    · simp [isInField, isNowhere] at isIn
  constructor
  · intro field child isChild
    rw [fieldChild?_eq_find?] at isChild
    exact inField field child (List.mem_of_find?_eq_some isChild) (List.find?_some isChild)
  · intro child isChild
    rcases List.mem_filter.mp isChild with ⟨isChild, isDeclarator⟩
    exact inField "declarator" child isChild isDeclarator

end ConcreteTree

namespace Lowering

open ConcreteTree

theorem seesSame_withoutExtras (setting : Setting) : SeesSame setting setting withoutExtras where
  text tree := by simp [Setting.text, kind]
  spanOf first last := by simp

/-- No node is planned with a child that is neither a part nor found in a field. -/
theorem kept_of_plans {setting : Setting} {keep : ConcreteTree → Bool} {tree : ConcreteTree}
    (keepsParts : ∀ tree, tree.isPart → keep tree) (kept : FieldsKept keep tree)
    {pending : Pending} {children : List ConcreteTree}
    (plans : Plans setting tree (.branch pending children)) : ∀ child ∈ children, keep child := by
  have ofParts : ∀ {tree child : ConcreteTree}, child ∈ tree.parts → keep child :=
    fun isPart => keepsParts _ (List.mem_filter.mp isPart).2
  intro child isChild
  cases plans with
  | declaration isKind hasName isName =>
      rcases List.mem_append.mp isChild with inHeader | inBody
      · exact keepsParts child (List.mem_filter.mp inHeader).2
      · rcases hasBody : tree.fieldChild? "body" with _ | body
        · simp [bodyParts, hasBody] at inBody
        · rw [bodyParts, hasBody] at inBody
          exact ofParts inBody
  | call isKind hasName isName hasArguments noObject => exact ofParts isChild
  | callOn isKind hasName isName hasArguments hasObject =>
      rcases List.mem_cons.mp isChild with rfl | isArgument
      · exact kept.first "object" child hasObject
      · exact ofParts isArgument
  | variableDeclaration isKind => exact kept.declarators child isChild
  | fragment isKind hasName isName =>
      exact kept.first "value" child (Option.mem_toList.mp isChild)
  | expression notDedicated noLiteral => exact ofParts isChild

/--
A tree is lowered to the same node or fails with the same defect if all extras are left out of it,
provided that no extra is found where a field is looked up. No node is planned with an extra for a
child, and without the extras every node is planned with the same children in the same places.
-/
theorem lower_withoutExtras {tree : ConcreteTree}
    (kept : ∀ inner ∈ tree.preorder, FieldsKept isNoExtra inner) (setting : Setting) :
    lower setting tree.withoutExtras = lower setting tree ∧
      lowerParts setting tree.withoutExtras = lowerParts setting tree ∧
      ∀ inner ∈ tree.preorder,
        (∀ child ∈ plannedChildren setting inner, child.label.extra = false) ∧
          plan setting inner.withoutExtras =
            (plan setting inner).map (Plan.mapChildren withoutExtras) := by
  have sees := seesSame_withoutExtras setting
  refine ⟨lower_changed thins_withoutExtras sees kept,
    lowerParts_changed thins_withoutExtras sees kept, ?_⟩
  intro inner isInner
  refine ⟨?_, plan_changed thins_withoutExtras sees (kept inner isInner)⟩
  intro child isChild
  rw [plannedChildren] at isChild
  split at isChild
  · next isPlan =>
    have isKept := kept_of_plans (fun _ => isNoExtra_of_isPart) (kept inner isInner)
      (plans_of_plan isPlan) child isChild
    simpa [isNoExtra] using isKept
  · cases isChild

namespace CommentedMethod

/-- A method with a comment in its header and in each node that has a field. -/
def text : String := "void /*a*/ f(/*b*/) \x7b A./*c*/super.h(/*d*/ 1); \x7d"

def comment (start : Nat) : ConcreteTree :=
  .node ⟨"block_comment", start, start + 5, true, true, none, false, false, false⟩ []

/-- The tree that the grammar makes of the method. -/
def tree : ConcreteTree :=
  namedNode "method_declaration" none 0 48 [
    namedNode "void_type" (some "type") 0 4 [],
    comment 5,
    namedNode "identifier" (some "name") 11 12 [],
    namedNode "formal_parameters" (some "parameters") 12 19
      [tokenNode "(" 12, comment 13, tokenNode ")" 18],
    namedNode "block" (some "body") 20 48 [
      tokenNode "\x7b" 20,
      namedNode "expression_statement" none 22 46 [
        namedNode "method_invocation" none 22 45 [
          namedNode "identifier" (some "object") 22 23 [],
          tokenNode "." 23,
          comment 24,
          namedNode "super" none 29 34 [],
          tokenNode "." 34,
          namedNode "identifier" (some "name") 35 36 [],
          namedNode "argument_list" (some "arguments") 36 45 [
            tokenNode "(" 36,
            comment 37,
            namedNode "decimal_integer_literal" none 43 44 [],
            tokenNode ")" 44]],
        tokenNode ";" 45],
      tokenNode "\x7d" 47]]

def node : Node :=
  .methodDeclaration ⟨0, 48⟩ "f"
    [.expression ⟨0, 4⟩ "void_type" [], .expression ⟨12, 7⟩ "formal_parameters" []]
    (some [.expression ⟨22, 24⟩ "expression_statement" [
      .methodInvocation ⟨22, 23⟩ "h"
        (some (.expression ⟨22, 12⟩ qualifiedSuperKind [.expression ⟨22, 1⟩ "identifier" []]))
        [.literal ⟨43, 1⟩ .integer]]])

theorem fieldsKept_tree : ∀ inner ∈ tree.preorder, FieldsKept isNoExtra inner := by
  have noField : ∀ inner ∈ tree.preorder, ∀ child ∈ inner.children,
      child.isNoExtra ∨ child.label.field = none := by decide
  intro inner isInner
  exact fieldsKept_of_no_field (noField inner isInner)

theorem lower_tree : lower ⟨text.toUTF8, 0⟩ tree = .ok node := by
  rw [lower_eq_lowerTree, lowerTree_eq_ok_iff]
  refine .declaration (Or.inl rfl) rfl (by decide) rfl ?_ ?_
  · exact .cons (.expression (by decide) rfl .nil) (.cons (.expression (by decide) rfl .nil) .nil)
  · refine .cons (.expression (by decide) rfl (.cons ?_ .nil)) .nil
    refine .callOnSuper rfl rfl (by decide) rfl rfl rfl (.expression (by decide) rfl .nil) ?_
    exact .cons (.literal rfl) .nil

/-- The comments of the method are gone, and it is lowered as before. -/
theorem lower_commentedMethod :
    (∀ inner ∈ tree.preorder, FieldsKept isNoExtra inner) ∧
      (tree.preorder.map (·.label.extra)).count true = 4 ∧
      (tree.withoutExtras.preorder.map (·.label.extra)).count true = 0 ∧
      lower ⟨text.toUTF8, 0⟩ tree = .ok node ∧
      lower ⟨text.toUTF8, 0⟩ tree.withoutExtras = .ok node := by
  have same := (lower_withoutExtras fieldsKept_tree ⟨text.toUTF8, 0⟩).1
  refine ⟨fieldsKept_tree, by decide, ?_, lower_tree, same.trans lower_tree⟩
  simp [tree, comment, withoutExtras, namedNode, tokenNode, isNoExtra, preorder, preorderAll, label]

end CommentedMethod

end Lowering

end JavaFacts
