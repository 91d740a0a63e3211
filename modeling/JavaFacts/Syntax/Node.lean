import JavaFacts.Syntax.Literal
import JavaFacts.Syntax.Span
import JavaFacts.Syntax.Stack

/-!
# Syntax trees

The tree keeps what facts are drawn from: declarations and invocations of methods, and declarations
of local variables. Everything else is an expression of some kind, so that what is nested in it can
still be reached.

A node has two lists of children. The declared children are in the order of the parts of the node.
The children proper are in the order of the text: sorted by where they start, and otherwise as
declared. All loops over a tree keep an explicit stack, so that a deep tree needs no deep recursion;
they end because the nodes on the stack shrink.
-/

namespace JavaFacts

/-- A node of a syntax tree. -/
inductive Node where
  /-- A whole text. -/
  | compilationUnit (span : Span) (items : List Node)
  /-- The declaration of a method, which may have no body. -/
  | methodDeclaration (span : Span) (name : String) (header : List Node)
      (body : Option (List Node))
  /-- A call of a method, on a receiver or on none. -/
  | methodInvocation (span : Span) (name : String) (receiver : Option Node)
      (arguments : List Node)
  /-- The declaration of local variables. -/
  | variableDeclaration (span : Span) (fragments : List Node)
  /-- One declared variable. -/
  | variableFragment (span : Span) (name : String) (initializer : Option Node)
  /-- Any other part of the text. -/
  | expression (span : Span) (kind : String) (children : List Node)
  | literal (span : Span) (kind : LiteralKind)
deriving Inhabited

namespace Node

/-- The stretch of text that a node covers. -/
def span : Node → Span
  | compilationUnit span _ => span
  | methodDeclaration span _ _ _ => span
  | methodInvocation span _ _ _ => span
  | variableDeclaration span _ => span
  | variableFragment span _ _ => span
  | expression span _ _ => span
  | literal span _ => span

/-- The offset at which a node starts. -/
def start (node : Node) : Nat := node.span.start

/-- The name of the kind of a node; an expression has the name of its own kind. -/
def kindName : Node → String
  | compilationUnit _ _ => "compilation_unit"
  | methodDeclaration _ _ _ _ => "method_declaration"
  | methodInvocation _ _ _ _ => "method_invocation"
  | variableDeclaration _ _ => "variable_declaration_statement"
  | variableFragment _ _ _ => "variable_fragment"
  | expression _ kind _ => kind
  | literal _ _ => "literal"

/-- The children in the order of the parts of the node. -/
def declaredChildren : Node → List Node
  | compilationUnit _ items => items
  | methodDeclaration _ _ header body => header ++ body.getD []
  | methodInvocation _ _ receiver arguments => receiver.toList ++ arguments
  | variableDeclaration _ fragments => fragments
  | variableFragment _ _ initializer => initializer.toList
  | expression _ _ children => children
  | literal _ _ => []

/-- Whether a node starts no later than another. -/
def startsBefore (left right : Node) : Bool := left.start ≤ right.start

/-- The children in the order of the text. -/
def children (node : Node) : List Node := node.declaredChildren.mergeSort startsBefore

/-! ## Sizes -/

theorem sizeOf_toList (node : Option Node) : sizeOf node.toList ≤ sizeOf node + 1 := by
  cases node <;> simp

theorem sizeOf_getD_nil (nodes : Option (List Node)) : sizeOf (nodes.getD []) ≤ sizeOf nodes := by
  cases nodes <;> simp

/-- The declared children are smaller than the node, taken together. -/
theorem sizeOf_declaredChildren (node : Node) : sizeOf node.declaredChildren ≤ sizeOf node := by
  cases node with
  | compilationUnit span items =>
    simp only [declaredChildren, compilationUnit.sizeOf_spec]; omega
  | methodDeclaration span name header body =>
    have append := sizeOf_append header (body.getD [])
    have smaller := sizeOf_getD_nil body
    simp only [declaredChildren, methodDeclaration.sizeOf_spec]; omega
  | methodInvocation span name receiver arguments =>
    have append := sizeOf_append receiver.toList arguments
    have smaller := sizeOf_toList receiver
    simp only [declaredChildren, methodInvocation.sizeOf_spec]; omega
  | variableDeclaration span fragments =>
    simp only [declaredChildren, variableDeclaration.sizeOf_spec]; omega
  | variableFragment span name initializer =>
    have smaller := sizeOf_toList initializer
    simp only [declaredChildren, variableFragment.sizeOf_spec]; omega
  | expression span kind children =>
    simp only [declaredChildren, expression.sizeOf_spec]; omega
  | literal span kind => simp [declaredChildren]; omega

theorem children_perm (node : Node) : node.children.Perm node.declaredChildren :=
  List.mergeSort_perm _ _

/-- The children are smaller than the node, taken together. -/
theorem sizeOf_children (node : Node) : sizeOf node.children ≤ sizeOf node := by
  rw [node.children_perm.sizeOf_eq_sizeOf]
  exact node.sizeOf_declaredChildren

/-- A child is smaller than the node. -/
theorem sizeOf_lt_of_mem_children {node child : Node} (isChild : child ∈ node.children) :
    sizeOf child < sizeOf node :=
  Nat.lt_of_lt_of_le (List.sizeOf_lt_of_mem isChild) node.sizeOf_children

/-- A declared child is smaller than the node. -/
theorem sizeOf_lt_of_mem_declaredChildren {node child : Node}
    (isChild : child ∈ node.declaredChildren) : sizeOf child < sizeOf node :=
  Nat.lt_of_lt_of_le (List.sizeOf_lt_of_mem isChild) node.sizeOf_declaredChildren

/-- Putting the children in the place of a node makes a stack smaller. -/
theorem sizeOf_children_append_lt (node : Node) (stack : List Node) :
    sizeOf (node.children ++ stack) < sizeOf (node :: stack) := by
  have append := sizeOf_append node.children stack
  have smaller := node.sizeOf_children
  simp only [List.cons.sizeOf_spec]; omega

/-! ## Counting -/

/-- Counts the nodes on and below a stack that satisfy a condition, the last child first. -/
def countFrom (condition : Node → Bool) (count : Nat) : List Node → Nat
  | [] => count
  | node :: stack =>
    countFrom condition (if condition node then count + 1 else count)
      (node.children.reverse ++ stack)
termination_by stack => sizeOf stack
decreasing_by
  have append := sizeOf_append node.children.reverse stack
  have reversed : sizeOf node.children.reverse = sizeOf node.children :=
    (List.reverse_perm _).sizeOf_eq_sizeOf
  have smaller := node.sizeOf_children
  simp only [List.cons.sizeOf_spec]; omega

/-- The number of nodes of a tree that satisfy a condition. -/
def countWhere (node : Node) (condition : Node → Bool) : Nat := countFrom condition 0 [node]

/-! ## Equality -/

/-- Whether two nodes agree in everything but their spans and children. -/
def sameShape : Node → Node → Bool
  | compilationUnit _ left, compilationUnit _ right => left.length == right.length
  | methodDeclaration _ leftName leftHeader leftBody,
      methodDeclaration _ rightName rightHeader rightBody =>
    leftName == rightName && leftHeader.length == rightHeader.length &&
      leftBody.map List.length == rightBody.map List.length
  | methodInvocation _ leftName leftReceiver leftArguments,
      methodInvocation _ rightName rightReceiver rightArguments =>
    leftName == rightName && leftReceiver.isSome == rightReceiver.isSome &&
      leftArguments.length == rightArguments.length
  | variableDeclaration _ left, variableDeclaration _ right => left.length == right.length
  | variableFragment _ leftName left, variableFragment _ rightName right =>
    leftName == rightName && left.isSome == right.isSome
  | expression _ leftKind left, expression _ rightKind right =>
    leftKind == rightKind && left.length == right.length
  | literal _ leftKind, literal _ rightKind => leftKind == rightKind
  | _, _ => false

theorem sizeOf_map_fst_zip_le (left right : List Node) :
    sizeOf ((left.zip right).map Prod.fst) ≤ sizeOf left := by
  induction left generalizing right with
  | nil => simp
  | cons first rest ih =>
    cases right with
    | nil => simp; omega
    | cons second others =>
      have shorter := ih others
      simp only [List.zip_cons_cons, List.map_cons, List.cons.sizeOf_spec]; omega

/-- Compares the pairs of nodes on a stack, the last children first. -/
def allEqual : List (Node × Node) → Bool
  | [] => true
  | (left, right) :: pending =>
    if left.span = right.span && left.sameShape right then
      allEqual ((left.declaredChildren.zip right.declaredChildren).reverse ++ pending)
    else false
termination_by pending => sizeOf (pending.map Prod.fst)
decreasing_by
  have reversed :
      sizeOf (((left.declaredChildren.zip right.declaredChildren).map Prod.fst).reverse) =
        sizeOf ((left.declaredChildren.zip right.declaredChildren).map Prod.fst) :=
    (List.reverse_perm _).sizeOf_eq_sizeOf
  have append := sizeOf_append
    (((left.declaredChildren.zip right.declaredChildren).map Prod.fst).reverse)
    (pending.map Prod.fst)
  have shorter := sizeOf_map_fst_zip_le left.declaredChildren right.declaredChildren
  have smaller := left.sizeOf_declaredChildren
  simp only [List.map_append, List.map_reverse, List.map_cons, List.cons.sizeOf_spec]; omega

instance : BEq Node := ⟨fun left right => allEqual [(left, right)]⟩

end Node

end JavaFacts
