import JavaFacts.Syntax.Node

/-!
# Walking a tree

A walk offers every node of a tree to a visitor, parents before children and children in the order
of the text. The visitor answers whether the walk should go on below the node. It may also stop the
walk altogether; the state that it has reached by then is kept.
-/

namespace JavaFacts

/-- What a visitor answers when a node is offered to it. -/
inductive Answer (ε : Type) where
  /-- Go on with the children. -/
  | descend
  /-- Go on after the node. -/
  | skip
  /-- Stop the walk. -/
  | stop (error : ε)
deriving Inhabited

/-- A visitor with a state of its own, which it may change at every node. -/
structure Visitor (σ ε : Type) where
  visit : Node → σ → σ × Answer ε

/-- How a walk ended, and the state of the visitor by then. -/
structure WalkResult (σ ε : Type) where
  state : σ
  outcome : Except ε Unit

/--
What a visitor does at each kind of node. A callback is given the whole node and its parts; by default
it goes on with the children.
-/
structure Callbacks (σ ε : Type) where
  compilationUnit : Node → (items : List Node) → σ → σ × Answer ε :=
    fun _ _ state => (state, .descend)
  methodDeclaration : Node → (name : String) → (header : List Node) →
      (body : Option (List Node)) → σ → σ × Answer ε :=
    fun _ _ _ _ state => (state, .descend)
  methodInvocation : Node → (name : String) → (receiver : Option Node) →
      (arguments : List Node) → σ → σ × Answer ε :=
    fun _ _ _ _ state => (state, .descend)
  variableDeclaration : Node → (fragments : List Node) → σ → σ × Answer ε :=
    fun _ _ state => (state, .descend)
  variableFragment : Node → (name : String) → (initializer : Option Node) → σ → σ × Answer ε :=
    fun _ _ _ state => (state, .descend)
  expression : Node → (kind : String) → (children : List Node) → σ → σ × Answer ε :=
    fun _ _ _ state => (state, .descend)
  literal : Node → LiteralKind → σ → σ × Answer ε :=
    fun _ _ state => (state, .descend)

/-- The visitor that offers every node to the callback of its kind. -/
def Callbacks.visitor {σ ε : Type} (callbacks : Callbacks σ ε) : Visitor σ ε where
  visit node :=
    match node with
    | .compilationUnit _ items => callbacks.compilationUnit node items
    | .methodDeclaration _ name header body => callbacks.methodDeclaration node name header body
    | .methodInvocation _ name receiver arguments =>
      callbacks.methodInvocation node name receiver arguments
    | .variableDeclaration _ fragments => callbacks.variableDeclaration node fragments
    | .variableFragment _ name initializer => callbacks.variableFragment node name initializer
    | .expression _ kind children => callbacks.expression node kind children
    | .literal _ kind => callbacks.literal node kind

namespace Visitor

variable {σ ε : Type}

/-- Walks the nodes on a stack. -/
def walkAll (visitor : Visitor σ ε) (state : σ) : List Node → WalkResult σ ε
  | [] => ⟨state, .ok ()⟩
  | node :: stack =>
    match visitor.visit node state with
    | (state, .descend) => visitor.walkAll state (node.children ++ stack)
    | (state, .skip) => visitor.walkAll state stack
    | (state, .stop error) => ⟨state, .error error⟩
termination_by stack => sizeOf stack
decreasing_by
  · exact node.sizeOf_children_append_lt stack
  · simp only [List.cons.sizeOf_spec]; omega

/-- Walks a tree. -/
def walk (visitor : Visitor σ ε) (root : Node) (state : σ) : WalkResult σ ε :=
  visitor.walkAll state [root]

end Visitor

end JavaFacts
