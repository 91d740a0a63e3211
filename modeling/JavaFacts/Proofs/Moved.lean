import JavaFacts.Proofs.WellMade

/-!
# Moving nodes

A node is moved by adding a distance to where it and all nodes below it start. This changes neither
the order of children nor the pre-order. If a tree was lowered with a shift, it is lowered without
one to the same node, moved by the shift. And a moved node of a longer text holds the same facts as
the node, wherever both texts agree on the text of the nodes, and on their lines up to a number of
lines that is the same for all.
-/

namespace JavaFacts

open InOrder Extraction

/-- The span that starts a distance later. -/
def Span.moved (span : Span) (distance : Nat) : Span := ⟨span.start + distance, span.length⟩

@[simp]
theorem Span.start_moved (span : Span) (distance : Nat) :
    (span.moved distance).start = span.start + distance := rfl

@[simp]
theorem Span.stop_moved (span : Span) (distance : Nat) :
    (span.moved distance).stop = span.stop + distance := by
  simp only [moved, stop]
  omega

namespace Node

/-- The node with all spans moved by a distance. -/
@[simp]
def moved (distance : Nat) : Node → Node
  | compilationUnit span items =>
    compilationUnit (span.moved distance) (items.map (moved distance))
  | methodDeclaration span name header none =>
    methodDeclaration (span.moved distance) name (header.map (moved distance)) none
  | methodDeclaration span name header (some statements) =>
    methodDeclaration (span.moved distance) name (header.map (moved distance))
      (some (statements.map (moved distance)))
  | methodInvocation span name none arguments =>
    methodInvocation (span.moved distance) name none (arguments.map (moved distance))
  | methodInvocation span name (some receiver) arguments =>
    methodInvocation (span.moved distance) name (some (moved distance receiver))
      (arguments.map (moved distance))
  | variableDeclaration span fragments =>
    variableDeclaration (span.moved distance) (fragments.map (moved distance))
  | variableFragment span name none => variableFragment (span.moved distance) name none
  | variableFragment span name (some initializer) =>
    variableFragment (span.moved distance) name (some (moved distance initializer))
  | expression span kind children =>
    expression (span.moved distance) kind (children.map (moved distance))
  | literal span kind => literal (span.moved distance) kind
termination_by node => sizeOf node
decreasing_by
  all_goals
    apply sizeOf_lt_of_mem_declaredChildren
    simp [declaredChildren, *]

@[simp]
theorem moved_methodDeclaration (distance : Nat) (span : Span) (name : String) (header : List Node)
    (body : Option (List Node)) :
    (methodDeclaration span name header body).moved distance =
      methodDeclaration (span.moved distance) name (header.map (moved distance))
        (body.map (List.map (moved distance))) := by
  cases body <;> simp

@[simp]
theorem moved_methodInvocation (distance : Nat) (span : Span) (name : String)
    (receiver : Option Node) (arguments : List Node) :
    (methodInvocation span name receiver arguments).moved distance =
      methodInvocation (span.moved distance) name (receiver.map (moved distance))
        (arguments.map (moved distance)) := by
  cases receiver <;> simp

@[simp]
theorem moved_variableFragment (distance : Nat) (span : Span) (name : String)
    (initializer : Option Node) :
    (variableFragment span name initializer).moved distance =
      variableFragment (span.moved distance) name (initializer.map (moved distance)) := by
  cases initializer <;> simp

@[simp]
theorem span_moved (distance : Nat) (node : Node) :
    (node.moved distance).span = node.span.moved distance := by
  cases node <;> simp [span]

theorem declaredChildren_moved (distance : Nat) (node : Node) :
    (node.moved distance).declaredChildren = node.declaredChildren.map (moved distance) := by
  cases node with
  | methodDeclaration span name header body => cases body <;> simp [declaredChildren]
  | methodInvocation span name receiver arguments => cases receiver <;> simp [declaredChildren]
  | variableFragment span name initializer => cases initializer <;> simp [declaredChildren]
  | _ => simp [declaredChildren]

/-- Moving keeps the order of children. -/
theorem children_moved (distance : Nat) (node : Node) :
    (node.moved distance).children = node.children.map (moved distance) := by
  rw [children, declaredChildren_moved, children, List.map_mergeSort]
  intro left _ right _
  rw [startsBefore, startsBefore, decide_eq_decide]
  simp [start]

theorem preorder_moved (distance : Nat) (node : Node) :
    (node.moved distance).preorder = node.preorder.map (moved distance) := by
  rw [preorder_eq, preorder_eq, List.map_cons, children_moved, preorderAll, preorderAll,
    List.flatMap_map, List.map_flatMap]
  congr 1
  apply List.flatMap_congr
  intro child isChild
  exact preorder_moved distance child
termination_by sizeOf node
decreasing_by exact sizeOf_lt_of_mem_children isChild

theorem methodName?_moved (distance : Nat) (node : Node) :
    (node.moved distance).methodName? = node.methodName? := by
  cases node <;> simp [methodName?]

end Node

/-! ## Lowering without the shift -/

namespace Lowering

open ConcreteTree

/-- The receiver with its span moved by a distance. -/
def Receiver.moved (distance : Nat) : Receiver → Receiver
  | qualifiedSuper span => qualifiedSuper (span.moved distance)
  | receiver => receiver

/-- The shape with the span in it moved by a distance. -/
def Shape.moved (distance : Nat) : Shape → Shape
  | invocation name receiver => invocation name (receiver.moved distance)
  | shape => shape

/-- The node that waits, with all spans moved by a distance. -/
def Pending.moved (distance : Nat) (pending : Pending) : Pending :=
  ⟨pending.span.moved distance, pending.shape.moved distance, pending.arity⟩

theorem Pending.assemble_moved (distance : Nat) (pending : Pending) (nodes : List Node) :
    (pending.moved distance).assemble (nodes.map (Node.moved distance)) =
      (pending.assemble nodes).moved distance := by
  rcases pending with ⟨span, shape, arity⟩
  cases shape with
  | declaration name header hasBody =>
      cases hasBody <;> simp [Pending.moved, Shape.moved, assemble]
  | invocation name receiver =>
      cases receiver <;> cases nodes <;>
        simp [Pending.moved, Shape.moved, Receiver.moved, assemble]
  | fragment name =>
      cases nodes <;> simp [Pending.moved, Shape.moved, assemble]
  | _ => simp [Pending.moved, Shape.moved, assemble]

theorem spanOf_moved (bytes : ByteArray) {shift start : Nat} (isBehind : shift ≤ start)
    (stop : Nat) :
    (Setting.spanOf ⟨bytes, shift⟩ start stop).moved shift =
      Setting.spanOf ⟨bytes, 0⟩ start stop := by
  simp only [Setting.spanOf, Span.ofBounds, Span.moved, Span.mk.injEq]
  omega

theorem receiverOn_moved {bytes : ByteArray} {shift : Nat} {tree object : ConcreteTree}
    (behind : ∀ inner ∈ tree.preorder, shift ≤ inner.label.start)
    (isObject : object ∈ tree.children) :
    (receiverOn ⟨bytes, shift⟩ tree object).moved shift = receiverOn ⟨bytes, 0⟩ tree object := by
  rw [receiverOn, receiverOn]
  split
  · rw [Receiver.moved, spanOf_moved bytes (behind _ (mem_preorder_of_mem_children isObject))]
  · rfl

theorem text_unshifted {bytes : ByteArray} {shift : Nat} {tree : ConcreteTree} {text : String}
    (isText : Setting.text ⟨bytes, shift⟩ tree = .ok text) :
    Setting.text ⟨bytes, 0⟩ tree = .ok text := by
  simpa only [Setting.text] using isText

/-- Without the shift a node is planned with the same children, and all spans are moved. -/
theorem plans_moved {bytes : ByteArray} {shift : Nat} {tree : ConcreteTree} {pending : Pending}
    {children : List ConcreteTree} (behind : ∀ inner ∈ tree.preorder, shift ≤ inner.label.start)
    (plans : Plans ⟨bytes, shift⟩ tree (.branch pending children)) :
    Plans ⟨bytes, 0⟩ tree (.branch (pending.moved shift) children) := by
  have isSpan : (Setting.span ⟨bytes, shift⟩ tree).moved shift = Setting.span ⟨bytes, 0⟩ tree :=
    spanOf_moved bytes (behind tree tree.mem_preorder_self) _
  cases plans with
  | declaration isKind hasName isName =>
      rw [Pending.moved, isSpan]
      exact .declaration isKind hasName (text_unshifted isName)
  | call isKind hasName isName hasArguments noObject =>
      rw [Pending.moved, isSpan]
      exact .call isKind hasName (text_unshifted isName) hasArguments noObject
  | callOn isKind hasName isName hasArguments hasObject =>
      rw [Pending.moved, isSpan, Shape.moved,
        receiverOn_moved behind (mem_children_of_fieldChild? hasObject)]
      exact .callOn isKind hasName (text_unshifted isName) hasArguments hasObject
  | variableDeclaration isKind =>
      rw [Pending.moved, isSpan]
      exact .variableDeclaration isKind
  | fragment isKind hasName isName =>
      rw [Pending.moved, isSpan]
      exact .fragment isKind hasName (text_unshifted isName)
  | expression notDedicated noLiteral =>
      rw [Pending.moved, isSpan]
      exact .expression notDedicated noLiteral

/-- What a tree is lowered to with a shift, it is lowered to without one, moved by the shift. -/
theorem lowers_moved {bytes : ByteArray} {shift : Nat} {tree : ConcreteTree} {node : Node}
    (behind : ∀ inner ∈ tree.preorder, shift ≤ inner.label.start)
    (lowers : Lowers ⟨bytes, shift⟩ tree node) : Lowers ⟨bytes, 0⟩ tree (node.moved shift) := by
  -- By induction on the size of the tree, along the trees that it is planned with.
  rcases exists_plan_of_lowers lowers with plans | ⟨pending, children, nodes, plans, related, rfl⟩
  · cases plans with
    | literal isLiteral =>
        rw [Node.moved, Setting.span, spanOf_moved bytes (behind tree tree.mem_preorder_self)]
        exact .literal isLiteral
  · rw [← Pending.assemble_moved]
    apply lowers_assemble (plans_moved behind plans)
    rw [List.forall₂_map_right_iff]
    apply forall₂_imp _ related
    intro child isChild childNode
    exact lowers_moved (forall_preorder_of_plans behind plans isChild)
termination_by sizeOf tree
decreasing_by exact sizeOf_lt_of_mem_planned (plan_of_plans plans) isChild

theorem lowerAll_moved {bytes : ByteArray} {shift : Nat} {trees : List ConcreteTree}
    {nodes : List Node}
    (behind : ∀ tree ∈ trees, ∀ inner ∈ tree.preorder, shift ≤ inner.label.start)
    (isLowered : lowerAll ⟨bytes, shift⟩ trees = .ok nodes) :
    lowerAll ⟨bytes, 0⟩ trees = .ok (nodes.map (Node.moved shift)) := by
  rw [lowerAll_eq_ok_iff, List.forall₂_map_right_iff]
  apply forall₂_imp _ (lowerAll_eq_ok_iff.mp isLowered)
  intro tree isTree node
  exact lowers_moved (behind tree isTree)

end Lowering

/-! ## The facts of a moved node -/

/-- The declaration, a number of lines further down. -/
def Declaration.movedDown (lines : Nat) (declaration : Declaration) : Declaration :=
  { declaration with
    startLine := declaration.startLine + lines
    endLine := declaration.endLine + lines }

/-- The call, a number of lines further down. -/
def Call.movedDown (lines : Nat) (call : Call) : Call :=
  { call with startLine := call.startLine + lines }

/-- The facts of a text that stands a number of lines further down. -/
def Facts.movedDown (lines : Nat) (facts : Facts) : Facts where
  declarations := facts.declarations.map (Declaration.movedDown lines)
  calls := facts.calls.map (Call.movedDown lines)
  receivers := facts.receivers

@[simp]
theorem Facts.movedDown_zero (facts : Facts) : facts.movedDown 0 = facts := by
  have declarations : Declaration.movedDown 0 = id := rfl
  have calls : Call.movedDown 0 = id := rfl
  rw [movedDown, declarations, calls, Array.map_id, Array.map_id]

@[simp]
theorem Facts.movedDown_empty (lines : Nat) : Facts.empty.movedDown lines = .empty := by
  simp [movedDown, empty]

namespace Extraction

/--
At a node of a unit and the moved node of another unit, texts agree, and lines do after a number of
further ones.
-/
structure Displaced (here there : SourceUnit) (distance lines : Nat) (node : Node) : Prop where
  startLine : there.lineOf (node.span.start + distance) = here.lineOf node.span.start + lines
  stopLine : there.lineOf (there.stopOf (node.span.moved distance)) =
    here.lineOf (here.stopOf node.span) + lines
  texts : ∀ child ∈ node.declaredChildren,
    (there.text (child.moved distance)).toOption = (here.text child).toOption

/-- At a node of a unit and the moved node of another unit, lines and texts agree. -/
structure Alike (here there : SourceUnit) (distance : Nat) (node : Node) : Prop where
  startLine : there.lineOf (node.span.start + distance) = here.lineOf node.span.start
  stopLine : there.lineOf (there.stopOf (node.span.moved distance)) =
    here.lineOf (here.stopOf node.span)
  texts : ∀ child ∈ node.declaredChildren, there.text (child.moved distance) = here.text child

theorem Alike.displaced {here there : SourceUnit} {distance : Nat} {node : Node}
    (alike : Alike here there distance node) : Displaced here there distance 0 node where
  startLine := alike.startLine
  stopLine := alike.stopLine
  texts child isChild := congrArg Except.toOption (alike.texts child isChild)

theorem isFragment_moved (distance : Nat) (node : Node) :
    IsFragment (node.moved distance) ↔ IsFragment node := by
  cases node <;> simp [IsFragment]

theorem declaresByFragments_moved (distance : Nat) (node : Node) :
    DeclaresByFragments (node.moved distance) ↔ DeclaresByFragments node := by
  cases node <;> simp [DeclaresByFragments, isFragment_moved]

theorem variableNames_moved (distance : Nat) (node : Node) :
    variableNames (node.moved distance) = variableNames node := by
  cases node with
  | variableDeclaration span fragments =>
      rw [Node.moved, variableNames, variableNames, List.filterMap_map]
      apply List.filterMap_congr
      intro fragment _
      cases fragment <;> simp [variableName?]
  | _ => simp [variableNames]

theorem sound_moved {here there : SourceUnit} {distance lines : Nat} {node : Node}
    (displaced : Displaced here there distance lines node) :
    Sound there (node.moved distance) ↔ Sound here node := by
  cases node with
  | methodDeclaration span name header body =>
      cases body <;> simp [Sound, declaresByFragments_moved]
  | methodInvocation span name receiver arguments =>
      have readable : ∀ child, child ∈ receiver ∨ child ∈ arguments →
          (Readable there (child.moved distance) ↔ Readable here child) := by
        intro child isChild
        rw [Readable, Readable, succeeds_iff_isSome, succeeds_iff_isSome,
          displaced.texts child (by simpa [Node.declaredChildren] using isChild)]
      simp only [Node.moved_methodInvocation, Sound, List.forall_mem_map]
      refine and_congr_right fun _ => and_congr ?_ ?_
      · exact forall₂_congr fun child isChild => readable child (Or.inr isChild)
      · cases receiver with
        | none => simp
        | some object => simpa using readable object (Or.inl rfl)
  | _ => simp [Sound]

theorem declaration?_moved {here there : SourceUnit} {distance lines : Nat} {node : Node}
    (displaced : Displaced here there distance lines node) :
    declaration? there (node.moved distance) =
      (declaration? here node).map (Declaration.movedDown lines) := by
  cases node with
  | methodDeclaration span name header body =>
      have startLine := displaced.startLine
      have stopLine := displaced.stopLine
      simp only [Node.span] at startLine stopLine
      cases body with
      | none => simp [declaration?, startLine, stopLine, Declaration.movedDown]
      | some statements =>
          simp [declaration?, startLine, stopLine, List.flatMap_map, variableNames_moved,
            Declaration.movedDown]
  | _ => simp [declaration?]

theorem call?_moved {here there : SourceUnit} {distance lines : Nat} {node : Node}
    (displaced : Displaced here there distance lines node) :
    call? there (node.moved distance) = (call? here node).map (Call.movedDown lines) := by
  cases node with
  | methodInvocation span name receiver arguments =>
      have startLine := displaced.startLine
      simp only [Node.span] at startLine
      have texts : ∀ argument ∈ arguments,
          (there.text (argument.moved distance)).toOption = (here.text argument).toOption := by
        intro argument isArgument
        exact displaced.texts argument (List.mem_append_right _ isArgument)
      rw [Node.moved_methodInvocation, call?, call?, List.filterMap_map, Span.start_moved,
        startLine, List.length_map, Option.map_some, Call.movedDown]
      congr 2
      exact List.filterMap_congr texts
  | _ => simp [call?]

theorem qualifiedCall?_moved {here there : SourceUnit} {distance lines : Nat} {node : Node}
    (displaced : Displaced here there distance lines node) :
    qualifiedCall? there (node.moved distance) = qualifiedCall? here node := by
  cases node with
  | methodInvocation span name receiver arguments =>
      cases receiver with
      | none => simp [qualifiedCall?]
      | some object =>
          have isText := displaced.texts object (List.mem_append_left _ (by simp))
          simp [qualifiedCall?, isText]
  | _ => simp [qualifiedCall?]

/-- Moved nodes hold the same facts further down, if lines and texts go along at all of them. -/
theorem addFacts_moved {here there : SourceUnit} {distance lines : Nat} {nodes : List Node}
    (displaced : ∀ node ∈ nodes, Displaced here there distance lines node) (facts : Facts) :
    addFacts there (facts.movedDown lines) (nodes.map (Node.moved distance)) =
      (addFacts here facts nodes).movedDown lines := by
  have declarations := List.filterMap_congr fun node isNode =>
    declaration?_moved (displaced node isNode)
  have calls := List.filterMap_congr fun node isNode => call?_moved (displaced node isNode)
  have receivers := List.filterMap_congr fun node isNode =>
    qualifiedCall?_moved (displaced node isNode)
  simp only [addFacts, Facts.movedDown, List.filterMap_map, Function.comp_def, declarations, calls,
    receivers, ← List.map_filterMap, Array.map_append, List.map_toArray]

end Extraction

/-! ## Units whose methods were moved -/

namespace Node

/-- The nodes of a tree that declare or call a method, in pre-order. -/
def methods (root : Node) : List Node := root.preorder.filter (·.methodName?.isSome)

theorem methods_eq_of_not_method {root : Node} (noMethod : root.methodName? = none) :
    root.methods = root.children.flatMap methods := by
  rw [methods, preorder_eq, List.filter_cons_of_neg (by simp [noMethod]), preorderAll,
    List.filter_flatMap]
  rfl

theorem methods_eq_nil_of_leaf {root : Node} (noMethod : root.methodName? = none)
    (isLeaf : root.declaredChildren = []) : root.methods = [] := by
  rw [methods_eq_of_not_method noMethod, children, isLeaf, List.mergeSort_nil, List.flatMap_nil]

theorem methods_eq_of_only_child {root child : Node} (noMethod : root.methodName? = none)
    (isOnly : root.declaredChildren = [child]) : root.methods = child.methods := by
  rw [methods_eq_of_not_method noMethod, children, isOnly, List.mergeSort_singleton,
    List.flatMap_singleton]

theorem methods_eq_of_method {root : Node} {name : String}
    (isMethod : root.methodName? = some name) :
    root.methods = root :: root.children.flatMap methods := by
  rw [methods, preorder_eq, List.filter_cons_of_pos (by simp [isMethod]), preorderAll,
    List.filter_flatMap]
  rfl

theorem methods_moved (distance : Nat) (root : Node) :
    (root.moved distance).methods = root.methods.map (moved distance) := by
  rw [methods, preorder_moved, List.filter_map, methods]
  congr 1
  apply List.filter_congr
  intro node _
  rw [Function.comp_apply, methodName?_moved]

end Node

namespace Extraction

theorem sound_of_not_method {unit : SourceUnit} {node : Node} (noMethod : node.methodName? = none) :
    Sound unit node := by
  cases node with
  | methodDeclaration span name header body => cases noMethod
  | methodInvocation span name receiver arguments => cases noMethod
  | _ => trivial

/-- Only nodes that declare or call a method hold facts. -/
theorem addFacts_methods (unit : SourceUnit) (facts : Facts) (nodes : List Node) :
    addFacts unit facts (nodes.filter (·.methodName?.isSome)) = addFacts unit facts nodes := by
  have kept : ∀ {α : Type} (fact? : Node → Option α),
      (∀ node : Node, node.methodName? = none → fact? node = none) →
      (nodes.filter (·.methodName?.isSome)).filterMap fact? = nodes.filterMap fact? := by
    intro α fact? noFact
    rw [List.filterMap_filter]
    apply List.filterMap_congr
    intro node _
    split
    · rfl
    · next noMethod => exact (noFact node (by simpa using noMethod)).symm
  rw [addFacts, kept, kept, kept, addFacts]
  all_goals
    intro node noMethod
    cases node with
    | methodDeclaration span name header body => cases noMethod
    | methodInvocation span name receiver arguments => cases noMethod
    | _ => rfl

end Extraction

namespace SourceUnit

theorem extract_eq_ok_iff_methods {unit : SourceUnit} {facts : Facts} :
    unit.extract = .ok facts ↔
      (∀ node ∈ unit.root.methods, Sound unit node) ∧
        facts = addFacts unit .empty unit.root.methods := by
  rw [extract_eq_ok_iff, Node.methods, addFacts_methods]
  apply and_congr_left'
  constructor
  · intro sound node isNode
    exact sound node (List.mem_of_mem_filter isNode)
  · intro sound node isNode
    rcases isMethod : node.methodName? with _ | name
    · exact sound_of_not_method isMethod
    · exact sound node (List.mem_filter.mpr ⟨isNode, by simp [isMethod]⟩)

/-- Units with the same methods in the same order, but moved, have the same facts further down. -/
theorem extract_eq_ok_iff_displaced {here there : SourceUnit} {distance lines : Nat}
    (sameMethods : there.root.methods = here.root.methods.map (Node.moved distance))
    (displaced : ∀ node ∈ here.root.methods, Displaced here there distance lines node)
    (facts : Facts) :
    there.extract = .ok facts ↔
      ∃ original, here.extract = .ok original ∧ facts = original.movedDown lines := by
  have sound := forall₂_congr fun node isNode => sound_moved (displaced node isNode)
  have isMoved := addFacts_moved displaced .empty
  rw [Facts.movedDown_empty] at isMoved
  simp only [extract_eq_ok_iff_methods, sameMethods, List.forall_mem_map, sound, isMoved, and_assoc,
    exists_and_left, exists_eq_left]

/-- Units with the same methods in the same order, but moved, have the same facts. -/
theorem extract_eq_ok_iff_moved {here there : SourceUnit} {distance : Nat}
    (sameMethods : there.root.methods = here.root.methods.map (Node.moved distance))
    (alike : ∀ node ∈ here.root.methods, Alike here there distance node) (facts : Facts) :
    there.extract = .ok facts ↔ here.extract = .ok facts := by
  rw [extract_eq_ok_iff_displaced sameMethods fun node isNode => (alike node isNode).displaced]
  simp

end SourceUnit

end JavaFacts
