import JavaFacts.Concrete.Tree
import JavaFacts.Source.Fault
import JavaFacts.Syntax.Node

/-!
# Lowering

Lowering turns concrete trees into syntax trees. A node is planned first: what it becomes, and which
nodes below it become its children. When these are lowered it is assembled from them. Both happen on
an explicit stack of tasks, so that a deep tree needs no deep recursion.

All offsets are reduced by a shift, because a tree may have been made from a longer text in which the
source stands at that offset.
-/

namespace JavaFacts

open JavaFacts.Text

namespace Lowering

/-- What lowering reads beside the trees. -/
structure Setting where
  /-- The bytes from which names are read. -/
  bytes : ByteArray
  /-- What is subtracted from all offsets. -/
  shift : Nat

namespace Setting

/-- The span of a range, after the shift. -/
def spanOf (setting : Setting) (start stop : Nat) : Span :=
  .ofBounds (start - setting.shift) (stop - setting.shift)

/-- The span of a node, after the shift. -/
def span (setting : Setting) (tree : ConcreteTree) : Span :=
  setting.spanOf tree.label.start tree.label.stop

/-- The text of a node. -/
def text (setting : Setting) (tree : ConcreteTree) : Except TreeDefect String :=
  match Utf8.decode (setting.bytes.extract tree.label.start tree.label.stop) with
  | .ok text => .ok text
  | .error fault => .error (.notText tree.kind fault)

/-- The child of a node that belongs to a field, which must be there. -/
def requiredChild (setting : Setting) (tree : ConcreteTree) (field : String) :
    Except TreeDefect ConcreteTree :=
  match tree.fieldChild? field with
  | some child => .ok child
  | none => .error (.missingField tree.kind (tree.label.start - setting.shift) field)

end Setting

/-! ## Plans -/

/-- The receiver of an invocation. -/
inductive Receiver where
  | none
  /-- The first child. -/
  | object
  /-- The first child followed by `super`; the span covers both. -/
  | qualifiedSuper (span : Span)
deriving DecidableEq

/-- Everything about a node but its span and children. -/
inductive Shape where
  /-- The first `header` children belong to the header, the others to the body. -/
  | declaration (name : String) (header : Nat) (hasBody : Bool)
  | invocation (name : String) (receiver : Receiver)
  | variableDeclaration
  | fragment (name : String)
  | expression (kind : String)
deriving DecidableEq

/-- A node that waits for its children. -/
structure Pending where
  span : Span
  shape : Shape
  /-- The number of children. -/
  arity : Nat

/-- What becomes of a concrete node. -/
inductive Plan where
  | leaf (node : Node)
  | branch (pending : Pending) (children : List ConcreteTree)

/-- The kind of the expression that stands for an object followed by `super`. -/
def qualifiedSuperKind : String := "qualified_super"

/-- The node with the given children. -/
def Pending.assemble (pending : Pending) (children : List Node) : Node :=
  match pending.shape with
  | .declaration name header hasBody =>
    .methodDeclaration pending.span name (children.take header)
      (if hasBody then some (children.drop header) else Option.none)
  | .invocation name receiver =>
    match receiver with
    | .none => .methodInvocation pending.span name Option.none children
    | .object => .methodInvocation pending.span name children.head? children.tail
    | .qualifiedSuper span =>
      .methodInvocation pending.span name
        (children.head?.map fun object => .expression span qualifiedSuperKind [object])
        children.tail
  | .variableDeclaration => .variableDeclaration pending.span children
  | .fragment name => .variableFragment pending.span name children.head?
  | .expression kind => .expression pending.span kind children

/-- A branch with a shape and children. -/
def branch (setting : Setting) (tree : ConcreteTree) (shape : Shape)
    (children : List ConcreteTree) : Plan :=
  .branch ⟨setting.span tree, shape, children.length⟩ children

/-- The plan of a declaration: the header is everything but the name and the body. -/
def planDeclaration (setting : Setting) (tree : ConcreteTree) : Except TreeDefect Plan := do
  let nameTree ← setting.requiredChild tree "name"
  let body := tree.fieldChild? "body"
  let header := tree.partsExcept [tree.fieldIndex? "name", tree.fieldIndex? "body"]
  let name ← setting.text nameTree
  pure (branch setting tree (.declaration name header.length body.isSome)
    (header ++ (body.map ConcreteTree.parts).getD []))

/-- The receiver of an invocation on an object: a `super` may follow the object. -/
def receiverOn (setting : Setting) (tree object : ConcreteTree) : Receiver :=
  match (tree.partsExcept [tree.fieldIndex? "object"]).find? (·.kind == "super") with
  | some superTree => .qualifiedSuper (setting.spanOf object.label.start superTree.label.stop)
  | none => .object

/-- The plan of an invocation: the receiver comes before the arguments. -/
def planInvocation (setting : Setting) (tree : ConcreteTree) : Except TreeDefect Plan := do
  let nameTree ← setting.requiredChild tree "name"
  let arguments ← setting.requiredChild tree "arguments"
  let name ← setting.text nameTree
  match tree.fieldChild? "object" with
  | none => pure (branch setting tree (.invocation name .none) arguments.parts)
  | some object =>
    pure (branch setting tree (.invocation name (receiverOn setting tree object))
      (object :: arguments.parts))

/-- The plan of one declared variable. -/
def planFragment (setting : Setting) (tree : ConcreteTree) : Except TreeDefect Plan := do
  let nameTree ← setting.requiredChild tree "name"
  let name ← setting.text nameTree
  pure (branch setting tree (.fragment name) (tree.fieldChild? "value").toList)

/-- What becomes of a concrete node. -/
def plan (setting : Setting) (tree : ConcreteTree) : Except TreeDefect Plan :=
  if tree.kind = "method_declaration" ∨ tree.kind = "constructor_declaration" then
    planDeclaration setting tree
  else if tree.kind = "method_invocation" then planInvocation setting tree
  else if tree.kind = "local_variable_declaration" then
    .ok (branch setting tree .variableDeclaration (tree.fieldChildren "declarator"))
  else if tree.kind = "variable_declarator" then planFragment setting tree
  else
    match LiteralKind.ofGrammarKind? tree.kind with
    | some kind => .ok (.leaf (.literal (setting.span tree) kind))
    | none => .ok (branch setting tree (.expression tree.kind) tree.parts)

/-! ## Plans shrink -/

open ConcreteTree

theorem totalSize_parts_lt (tree : ConcreteTree) : totalSize tree.parts < sizeOf tree :=
  Nat.lt_of_le_of_lt (totalSize_filter_le _ _) tree.totalSize_children_lt

theorem fieldChild?_eq_some {tree child : ConcreteTree} {field : String}
    (isChild : tree.fieldChild? field = some child) :
    ∃ place, tree.fieldIndex? field = some place ∧ tree.children[place]? = some child := by
  unfold fieldChild? at isChild
  cases found : tree.fieldIndex? field with
  | none => simp [found] at isChild
  | some place => exact ⟨place, rfl, by simpa [found] using isChild⟩

theorem isInField_of_fieldIndex? {tree child : ConcreteTree} {field : String} {place : Nat}
    (isPlace : tree.fieldIndex? field = some place) (isThere : tree.children[place]? = some child) :
    child.isInField field = true := by
  obtain ⟨inBounds, satisfied, _⟩ := List.findIdx?_eq_some_iff_getElem.1 isPlace
  have isChild : tree.children[place] = child := by
    rw [List.getElem?_eq_getElem inBounds] at isThere
    exact Option.some.inj isThere
  rwa [isChild] at satisfied

theorem fieldChild_places_ne {tree left right : ConcreteTree} {leftField rightField : String}
    {leftPlace rightPlace : Nat} (leftIs : tree.fieldIndex? leftField = some leftPlace)
    (leftThere : tree.children[leftPlace]? = some left)
    (rightIs : tree.fieldIndex? rightField = some rightPlace)
    (rightThere : tree.children[rightPlace]? = some right) (isOther : leftField ≠ rightField) :
    leftPlace ≠ rightPlace := by
  intro isSame
  subst isSame
  have leftIn := isInField_of_fieldIndex? leftIs leftThere
  have rightIn := isInField_of_fieldIndex? rightIs rightThere
  have sameChild : left = right := by rw [leftThere] at rightThere; exact Option.some.inj rightThere
  subst sameChild
  simp only [isInField, beq_iff_eq] at leftIn rightIn
  exact isOther (Option.some.inj (leftIn.symm.trans rightIn))

theorem totalSize_planDeclaration {tree : ConcreteTree} {body : Option ConcreteTree}
    {places : List (Option Nat)} (isBody : tree.fieldChild? "body" = body)
    (isLeftOut : tree.fieldIndex? "body" ∈ places) :
    totalSize (tree.partsExcept places ++ (body.map parts).getD []) < sizeOf tree := by
  have all := tree.totalSize_children_lt
  have picked := totalSize_filter_le isPart
    (pickFrom (fun index => !places.contains (some index)) 0 tree.children)
  rw [totalSize_append]
  cases body with
  | none =>
    have fewer := totalSize_pickFrom_le (fun index => !places.contains (some index)) 0 tree.children
    simp only [partsExcept, Option.map_none, Option.getD_none] at picked ⊢
    simp only [totalSize] at *
    omega
  | some bodyTree =>
    obtain ⟨place, isPlace, isThere⟩ := fieldChild?_eq_some isBody
    have excluded : (fun index => !places.contains (some index)) (0 + place) = false := by
      have isMember : some place ∈ places := isPlace ▸ isLeftOut
      simpa using isMember
    have counted := totalSize_pickFrom_add_le
      (fun index => !places.contains (some index)) 0 isThere excluded
    have bodyParts := totalSize_parts_lt bodyTree
    simp only [partsExcept, Option.map_some, Option.getD_some] at picked ⊢
    omega

theorem totalSize_planInvocation {tree object arguments : ConcreteTree}
    (isObject : tree.fieldChild? "object" = some object)
    (isArguments : tree.fieldChild? "arguments" = some arguments) :
    totalSize (object :: arguments.parts) < sizeOf tree := by
  obtain ⟨objectPlace, objectIs, objectThere⟩ := fieldChild?_eq_some isObject
  obtain ⟨argumentsPlace, argumentsIs, argumentsThere⟩ := fieldChild?_eq_some isArguments
  have differ := fieldChild_places_ne objectIs objectThere argumentsIs argumentsThere (by decide)
  have both := sizeOf_add_le_totalSize objectThere argumentsThere differ
  have all := tree.totalSize_children_lt
  have argumentParts := totalSize_parts_lt arguments
  rw [totalSize_cons]; omega

theorem totalSize_fieldChild_parts {tree child : ConcreteTree} {field : String}
    (isChild : tree.fieldChild? field = some child) : totalSize child.parts < sizeOf tree := by
  obtain ⟨place, _, isThere⟩ := fieldChild?_eq_some isChild
  have bound := sizeOf_le_totalSize isThere
  have all := tree.totalSize_children_lt
  have childParts := totalSize_parts_lt child
  omega

theorem totalSize_fieldChild_toList (tree : ConcreteTree) (field : String) :
    totalSize (tree.fieldChild? field).toList < sizeOf tree := by
  have all := tree.totalSize_children_lt
  cases isChild : tree.fieldChild? field with
  | none => simp only [totalSize, Option.toList_none]; omega
  | some child =>
    obtain ⟨place, _, isThere⟩ := fieldChild?_eq_some isChild
    have bound := sizeOf_le_totalSize isThere
    simp only [Option.toList_some, totalSize_cons]
    simp only [totalSize] at *
    omega

theorem requiredChild_eq_ok {setting : Setting} {tree child : ConcreteTree} {field : String}
    (isOk : setting.requiredChild tree field = .ok child) :
    tree.fieldChild? field = some child := by
  unfold Setting.requiredChild at isOk
  split at isOk
  · next found => rw [found]; exact congrArg some (Except.ok.inj isOk)
  · cases isOk

/-- The children that a node is planned with are smaller than the node, taken together. -/
theorem totalSize_plan_lt {setting : Setting} {tree : ConcreteTree} {pending : Pending}
    {children : List ConcreteTree} (isPlan : plan setting tree = .ok (.branch pending children)) :
    totalSize children < sizeOf tree := by
  unfold plan at isPlan
  split at isPlan
  · unfold planDeclaration at isPlan
    simp only [bind, Except.bind] at isPlan
    split at isPlan
    · cases isPlan
    · split at isPlan
      · cases isPlan
      · cases isPlan
        exact totalSize_planDeclaration rfl (by simp)
  · split at isPlan
    · unfold planInvocation at isPlan
      simp only [bind, Except.bind] at isPlan
      split at isPlan
      · cases isPlan
      · split at isPlan
        · cases isPlan
        · next hasArguments =>
          split at isPlan
          · cases isPlan
          · split at isPlan
            · cases isPlan
              exact totalSize_fieldChild_parts (requiredChild_eq_ok hasArguments)
            · next hasObject =>
              cases isPlan
              exact totalSize_planInvocation hasObject (requiredChild_eq_ok hasArguments)
    · split at isPlan
      · cases isPlan
        exact Nat.lt_of_le_of_lt (totalSize_filter_le _ _) tree.totalSize_children_lt
      · split at isPlan
        · unfold planFragment at isPlan
          simp only [bind, Except.bind] at isPlan
          split at isPlan
          · cases isPlan
          · split at isPlan
            · cases isPlan
            · cases isPlan
              exact totalSize_fieldChild_toList tree "value"
        · split at isPlan
          · cases isPlan
          · cases isPlan
            exact totalSize_parts_lt tree

/-! ## The loop -/

/-- A task of the loop. -/
inductive Task where
  /-- Lower a concrete node. -/
  | lower (tree : ConcreteTree)
  /-- Assemble a node from the nodes that were lowered last. -/
  | assemble (pending : Pending)

/-- What is left to do in a task. -/
noncomputable def Task.size : Task → Nat
  | lower tree => 2 * sizeOf tree
  | assemble _ => 1

/-- What is left to do in all tasks. -/
noncomputable def remaining : List Task → Nat
  | [] => 0
  | task :: tasks => task.size + remaining tasks

theorem remaining_cons (task : Task) (tasks : List Task) :
    remaining (task :: tasks) = task.size + remaining tasks := rfl

theorem remaining_append (left right : List Task) :
    remaining (left ++ right) = remaining left + remaining right := by
  induction left with
  | nil => simp [remaining]
  | cons task tasks ih => rw [List.cons_append, remaining_cons, remaining_cons, ih, Nat.add_assoc]

theorem remaining_map_lower (trees : List ConcreteTree) :
    remaining (trees.map Task.lower) = 2 * totalSize trees := by
  induction trees with
  | nil => simp [remaining, totalSize]
  | cons first rest ih =>
    rw [List.map_cons, remaining_cons, ih, totalSize_cons, Task.size]; omega

/--
Performs tasks. The lowered nodes form a stack, the last one first; a node is assembled from as many
of them as it was planned with.
-/
def perform (setting : Setting) : List Task → (lowered : List Node) →
    Except TreeDefect (List Node)
  | [], lowered => .ok lowered
  | .lower tree :: tasks, lowered =>
    match _isPlan : plan setting tree with
    | .error defect => .error defect
    | .ok (.leaf leaf) => perform setting tasks (leaf :: lowered)
    | .ok (.branch pending children) =>
      perform setting (children.map Task.lower ++ .assemble pending :: tasks) lowered
  | .assemble pending :: tasks, lowered =>
    if lowered.length < pending.arity then .error (.lostChildren pending.span.start)
    else
      perform setting tasks
        (pending.assemble (lowered.take pending.arity).reverse :: lowered.drop pending.arity)
termination_by tasks => remaining tasks
decreasing_by
  · rw [remaining_cons, Task.size]
    have positive : 0 < sizeOf tree := by
      cases tree with
      | node label children => simp only [ConcreteTree.node.sizeOf_spec]; omega
    omega
  · have smaller := totalSize_plan_lt (by assumption)
    rw [remaining_append, remaining_map_lower, remaining_cons, remaining_cons, Task.size, Task.size]
    omega
  · rw [remaining_cons, Task.size]; omega

/-- Lowers trees, each to one node. -/
def lowerAll (setting : Setting) (trees : List ConcreteTree) : Except TreeDefect (List Node) :=
  (perform setting (trees.map Task.lower) []).map List.reverse

/-- Lowers the named children of a tree that are no extras. -/
def lowerParts (setting : Setting) (tree : ConcreteTree) : Except TreeDefect (List Node) :=
  lowerAll setting tree.parts

/-- Lowers a tree. -/
def lower (setting : Setting) (tree : ConcreteTree) : Except TreeDefect Node :=
  match lowerAll setting [tree] with
  | .error defect => .error defect
  | .ok nodes =>
    match nodes.getLast? with
    | some last => .ok last
    | none => .error (.vanished tree.kind)

end Lowering

end JavaFacts
