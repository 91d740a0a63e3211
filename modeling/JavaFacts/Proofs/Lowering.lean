import JavaFacts.Concrete.Lowering
import JavaFacts.Proofs.InOrder

/-!
# Lowering by recursion

Lowering keeps a stack of tasks and a stack of lowered nodes. This file shows that it does the same
as the recursion that plans a node, lowers the planned children from left to right and assembles the
node from them. The invariant is that a finished task leaves exactly one node on the second stack,
so that the children of a node are the last ones there when it is assembled.

`Lowers` says in which part of a node every child ends up. Lowering succeeds with some nodes just if
they are related to the trees in this way, and fails just if some plan fails, with the defect of the
first one in pre-order.
-/

namespace JavaFacts

open InOrder ConcreteTree

namespace Lowering

/-! ## What a plan can be -/

/-- The kinds of nodes that become more than an expression or a literal. -/
def dedicatedKinds : List String :=
  ["method_declaration", "constructor_declaration", "method_invocation",
    "local_variable_declaration", "variable_declarator"]

/-- The parts of a declaration that belong to its header. -/
def headerParts (tree : ConcreteTree) : List ConcreteTree :=
  tree.partsExcept [tree.fieldIndex? "name", tree.fieldIndex? "body"]

/-- The parts of the body of a declaration, if it has one. -/
def bodyParts (tree : ConcreteTree) : List ConcreteTree :=
  ((tree.fieldChild? "body").map parts).getD []

/-- The plans that nodes can have, by what they become. -/
inductive Plans (setting : Setting) (tree : ConcreteTree) : Plan → Prop
  | declaration {nameTree : ConcreteTree} {name : String}
      (isKind : tree.kind = "method_declaration" ∨ tree.kind = "constructor_declaration")
      (hasName : tree.fieldChild? "name" = some nameTree)
      (isName : setting.text nameTree = .ok name) :
      Plans setting tree (branch setting tree
        (.declaration name (headerParts tree).length (tree.fieldChild? "body").isSome)
        (headerParts tree ++ bodyParts tree))
  | call {nameTree arguments : ConcreteTree} {name : String}
      (isKind : tree.kind = "method_invocation")
      (hasName : tree.fieldChild? "name" = some nameTree)
      (isName : setting.text nameTree = .ok name)
      (hasArguments : tree.fieldChild? "arguments" = some arguments)
      (noObject : tree.fieldChild? "object" = none) :
      Plans setting tree (branch setting tree (.invocation name .none) arguments.parts)
  | callOn {nameTree arguments object : ConcreteTree} {name : String}
      (isKind : tree.kind = "method_invocation")
      (hasName : tree.fieldChild? "name" = some nameTree)
      (isName : setting.text nameTree = .ok name)
      (hasArguments : tree.fieldChild? "arguments" = some arguments)
      (hasObject : tree.fieldChild? "object" = some object) :
      Plans setting tree (branch setting tree
        (.invocation name (receiverOn setting tree object)) (object :: arguments.parts))
  | variableDeclaration (isKind : tree.kind = "local_variable_declaration") :
      Plans setting tree
        (branch setting tree .variableDeclaration (tree.fieldChildren "declarator"))
  | fragment {nameTree : ConcreteTree} {name : String} (isKind : tree.kind = "variable_declarator")
      (hasName : tree.fieldChild? "name" = some nameTree)
      (isName : setting.text nameTree = .ok name) :
      Plans setting tree (branch setting tree (.fragment name) (tree.fieldChild? "value").toList)
  | literal {kind : LiteralKind} (isLiteral : LiteralKind.ofGrammarKind? tree.kind = some kind) :
      Plans setting tree (.leaf (.literal (setting.span tree) kind))
  | expression (notDedicated : tree.kind ∉ dedicatedKinds)
      (noLiteral : LiteralKind.ofGrammarKind? tree.kind = none) :
      Plans setting tree (branch setting tree (.expression tree.kind) tree.parts)

theorem requiredChild_eq_ok_iff {setting : Setting} {tree child : ConcreteTree} {field : String} :
    setting.requiredChild tree field = .ok child ↔ tree.fieldChild? field = some child := by
  constructor
  · exact requiredChild_eq_ok
  · intro isChild
    rw [Setting.requiredChild, isChild]

theorem bind_eq_ok {α β ε : Type} {attempt : Except ε α} {next : α → Except ε β} {result : β}
    (isOk : attempt >>= next = .ok result) :
    ∃ value, attempt = .ok value ∧ next value = .ok result :=
  InOrder.bind_eq_ok_iff.mp isOk

theorem plans_of_plan {setting : Setting} {tree : ConcreteTree} {result : Plan}
    (isPlan : plan setting tree = .ok result) : Plans setting tree result := by
  rw [plan] at isPlan
  split at isPlan
  · next isKind =>
    rcases bind_eq_ok isPlan with ⟨nameTree, hasName, isPlan⟩
    rcases bind_eq_ok isPlan with ⟨name, isName, isPlan⟩
    cases isPlan
    exact .declaration isKind (requiredChild_eq_ok hasName) isName
  next notDeclaration =>
  split at isPlan
  · next isKind =>
    rcases bind_eq_ok isPlan with ⟨nameTree, hasName, isPlan⟩
    rcases bind_eq_ok isPlan with ⟨arguments, hasArguments, isPlan⟩
    rcases bind_eq_ok isPlan with ⟨name, isName, isPlan⟩
    split at isPlan
    · next noObject =>
      cases isPlan
      exact .call isKind (requiredChild_eq_ok hasName) isName (requiredChild_eq_ok hasArguments)
        noObject
    · next object hasObject =>
      cases isPlan
      exact .callOn isKind (requiredChild_eq_ok hasName) isName (requiredChild_eq_ok hasArguments)
        hasObject
  next notInvocation =>
  split at isPlan
  · next isKind =>
    cases isPlan
    exact .variableDeclaration isKind
  next notVariables =>
  split at isPlan
  · next isKind =>
    rcases bind_eq_ok isPlan with ⟨nameTree, hasName, isPlan⟩
    rcases bind_eq_ok isPlan with ⟨name, isName, isPlan⟩
    cases isPlan
    exact .fragment isKind (requiredChild_eq_ok hasName) isName
  next notFragment =>
  split at isPlan
  · next kind isLiteral =>
    cases isPlan
    exact .literal isLiteral
  · next noLiteral =>
    cases isPlan
    refine .expression ?_ noLiteral
    simp only [dedicatedKinds, List.mem_cons, List.not_mem_nil, or_false]
    tauto

theorem ofGrammarKind?_of_mem_dedicatedKinds {kind : String} (dedicated : kind ∈ dedicatedKinds) :
    LiteralKind.ofGrammarKind? kind = none := by
  simp only [dedicatedKinds, List.mem_cons, List.not_mem_nil, or_false] at dedicated
  rcases dedicated with rfl | rfl | rfl | rfl | rfl <;> rfl

theorem plan_of_notDedicated {setting : Setting} {tree : ConcreteTree}
    (notDedicated : tree.kind ∉ dedicatedKinds) :
    plan setting tree =
      match LiteralKind.ofGrammarKind? tree.kind with
      | some kind => .ok (.leaf (.literal (setting.span tree) kind))
      | none => .ok (branch setting tree (.expression tree.kind) tree.parts) := by
  simp only [dedicatedKinds, List.mem_cons, List.not_mem_nil, or_false, not_or] at notDedicated
  rcases notDedicated with ⟨notMethod, notConstructor, notInvocation, notVariables, notFragment⟩
  rewrite [plan, if_neg (by tauto), if_neg notInvocation, if_neg notVariables, if_neg notFragment]
  cases LiteralKind.ofGrammarKind? tree.kind <;> rfl

theorem plan_of_plans {setting : Setting} {tree : ConcreteTree} {result : Plan}
    (plans : Plans setting tree result) : plan setting tree = .ok result := by
  cases plans with
  | declaration isKind hasName isName =>
      rw [plan, if_pos isKind, planDeclaration, requiredChild_eq_ok_iff.mpr hasName]
      simp only [bind, Except.bind, isName]
      rfl
  | call isKind hasName isName hasArguments noObject =>
      rw [plan, if_neg (by simp [isKind]), if_pos isKind, planInvocation,
        requiredChild_eq_ok_iff.mpr hasName, requiredChild_eq_ok_iff.mpr hasArguments]
      simp only [bind, Except.bind, isName, noObject]
      rfl
  | callOn isKind hasName isName hasArguments hasObject =>
      rw [plan, if_neg (by simp [isKind]), if_pos isKind, planInvocation,
        requiredChild_eq_ok_iff.mpr hasName, requiredChild_eq_ok_iff.mpr hasArguments]
      simp only [bind, Except.bind, isName, hasObject]
      rfl
  | variableDeclaration isKind =>
      rw [plan, if_neg (by simp [isKind]), if_neg (by simp [isKind]), if_pos isKind]
  | fragment isKind hasName isName =>
      rw [plan, if_neg (by simp [isKind]), if_neg (by simp [isKind]), if_neg (by simp [isKind]),
        if_pos isKind, planFragment, requiredChild_eq_ok_iff.mpr hasName]
      simp only [bind, Except.bind, isName]
      rfl
  | literal isLiteral =>
      have notDedicated : tree.kind ∉ dedicatedKinds := by
        intro dedicated
        rw [ofGrammarKind?_of_mem_dedicatedKinds dedicated] at isLiteral
        cases isLiteral
      rw [plan_of_notDedicated notDedicated, isLiteral]
  | expression notDedicated noLiteral => rw [plan_of_notDedicated notDedicated, noLiteral]

/-! ## The recursion -/

theorem sizeOf_le_totalSize_of_mem {trees : List ConcreteTree} {child : ConcreteTree}
    (isChild : child ∈ trees) : sizeOf child ≤ totalSize trees := by
  rcases List.mem_iff_getElem?.mp isChild with ⟨place, isThere⟩
  exact sizeOf_le_totalSize isThere

theorem sizeOf_lt_of_mem_planned {setting : Setting} {tree child : ConcreteTree} {pending : Pending}
    {children : List ConcreteTree} (isPlan : plan setting tree = .ok (.branch pending children))
    (isChild : child ∈ children) : sizeOf child < sizeOf tree :=
  Nat.lt_of_le_of_lt (sizeOf_le_totalSize_of_mem isChild) (totalSize_plan_lt isPlan)

/-- Plans a tree, lowers its planned children from left to right, and assembles it from them. -/
def lowerTree (setting : Setting) (tree : ConcreteTree) : Except TreeDefect Node :=
  match _isPlan : plan setting tree with
  | .error defect => .error defect
  | .ok (.leaf leaf) => .ok leaf
  | .ok (.branch pending children) =>
    (children.attach.mapM fun child => lowerTree setting child.1).map pending.assemble
termination_by sizeOf tree
decreasing_by exact sizeOf_lt_of_mem_planned _isPlan child.2

theorem lowerTree_eq (setting : Setting) (tree : ConcreteTree) :
    lowerTree setting tree =
      match plan setting tree with
      | .error defect => .error defect
      | .ok (.leaf leaf) => .ok leaf
      | .ok (.branch pending children) =>
        (children.mapM (lowerTree setting)).map pending.assemble := by
  rw [lowerTree]
  split
  · next isPlan => rw [isPlan]
  · next isPlan => rw [isPlan]
  · next isPlan =>
    rw [isPlan, List.mapM_subtype (g := lowerTree setting) (by intros; rfl), List.unattach_attach]

theorem lowerTree_branch {setting : Setting} {tree : ConcreteTree} {pending : Pending}
    {children : List ConcreteTree} (isPlan : plan setting tree = .ok (.branch pending children)) :
    lowerTree setting tree = (children.mapM (lowerTree setting)).map pending.assemble := by
  rw [lowerTree_eq, isPlan]

/-! ## The loop -/

theorem plan_arity {setting : Setting} {tree : ConcreteTree} {pending : Pending}
    {children : List ConcreteTree} (isPlan : plan setting tree = .ok (.branch pending children)) :
    pending.arity = children.length := by
  rcases plans_of_plan isPlan <;> rfl

theorem perform_nil (setting : Setting) (lowered : List Node) :
    perform setting [] lowered = .ok lowered := by
  rw [perform]

theorem perform_cons_lower (setting : Setting) (tree : ConcreteTree) (tasks : List Task)
    (lowered : List Node) :
    perform setting (.lower tree :: tasks) lowered =
      match plan setting tree with
      | .error defect => .error defect
      | .ok (.leaf leaf) => perform setting tasks (leaf :: lowered)
      | .ok (.branch pending children) =>
        perform setting (children.map Task.lower ++ .assemble pending :: tasks) lowered := by
  rw [perform]
  split
  · next isPlan => rw [isPlan]
  · next isPlan => rw [isPlan]
  · next isPlan => rw [isPlan]

/-- A node is assembled from as many of the last nodes as it was planned with. -/
theorem perform_assemble (setting : Setting) {pending : Pending} {nodes : List Node}
    (sameLength : nodes.length = pending.arity) (tasks : List Task) (lowered : List Node) :
    perform setting (.assemble pending :: tasks) (nodes.reverse ++ lowered) =
      perform setting tasks (pending.assemble nodes :: lowered) := by
  rw [perform, if_neg (by simp; omega), ← sameLength, ← List.length_reverse,
    List.take_left, List.drop_left, List.reverse_reverse]

/-- Performing the tasks of some trees leaves one node for each, the last one first. -/
theorem perform_lower_all {setting : Setting} (trees : List ConcreteTree)
    (each : ∀ tree ∈ trees, ∀ tasks lowered,
      perform setting (.lower tree :: tasks) lowered =
        lowerTree setting tree >>= fun node => perform setting tasks (node :: lowered))
    (tasks : List Task) (lowered : List Node) :
    perform setting (trees.map Task.lower ++ tasks) lowered =
      trees.mapM (lowerTree setting) >>= fun nodes =>
        perform setting tasks (nodes.reverse ++ lowered) := by
  induction trees generalizing lowered with
  | nil => rfl
  | cons tree rest ih =>
      rw [List.map_cons, List.cons_append, each tree (by simp)]
      rcases isLowered : lowerTree setting tree with defect | node
      · rw [mapM_cons_error isLowered]
        rfl
      · rw [mapM_cons_ok isLowered]
        change perform setting (rest.map Task.lower ++ tasks) (node :: lowered) = _
        rw [ih fun other otherMem => each other (by simp [otherMem])]
        cases rest.mapM (lowerTree setting) with
        | error defect => rfl
        | ok nodes => simp [bind, Except.bind, Except.map]

/-- Performing the task of a tree leaves one node, that of the recursion. -/
theorem perform_lower (setting : Setting) (tree : ConcreteTree) (tasks : List Task)
    (lowered : List Node) :
    perform setting (.lower tree :: tasks) lowered =
      lowerTree setting tree >>= fun node => perform setting tasks (node :: lowered) := by
  rw [perform_cons_lower]
  rcases isPlan : plan setting tree with defect | leaf | ⟨pending, children⟩
  · rw [lowerTree_eq, isPlan]
    rfl
  · rw [lowerTree_eq, isPlan]
    rfl
  · have each : ∀ child ∈ children, ∀ tasks lowered,
        perform setting (.lower child :: tasks) lowered =
          lowerTree setting child >>= fun node => perform setting tasks (node :: lowered) :=
      fun child childMem tasks lowered => perform_lower setting child tasks lowered
    change perform setting (children.map Task.lower ++ .assemble pending :: tasks) lowered = _
    rw [perform_lower_all children each, lowerTree_branch isPlan]
    rcases areLowered : children.mapM (lowerTree setting) with defect | nodes
    · rfl
    · have sameLength : nodes.length = pending.arity := by
        rw [plan_arity isPlan]
        exact (mapM_eq_ok_iff.mp areLowered).length_eq.symm
      exact perform_assemble setting sameLength tasks lowered
termination_by sizeOf tree
decreasing_by exact sizeOf_lt_of_mem_planned isPlan childMem

theorem lowerAll_eq_mapM (setting : Setting) (trees : List ConcreteTree) :
    lowerAll setting trees = trees.mapM (lowerTree setting) := by
  have performed := perform_lower_all trees (fun tree _ => perform_lower setting tree) [] []
  rw [List.append_nil] at performed
  rw [lowerAll, performed]
  cases trees.mapM (lowerTree setting) with
  | error defect => rfl
  | ok nodes => simp [bind, Except.bind, perform_nil, Except.map]

/-! ## Which child ends up where -/

/--
A tree and the node that it is lowered to. A declaration keeps the children of its header and those
of its body apart, an invocation its receiver and its arguments, and a fragment has its value as
initializer.
-/
inductive Lowers (setting : Setting) : ConcreteTree → Node → Prop
  | bodiless {tree nameTree : ConcreteTree} {name : String} {header : List Node}
      (isKind : tree.kind = "method_declaration" ∨ tree.kind = "constructor_declaration")
      (hasName : tree.fieldChild? "name" = some nameTree)
      (isName : setting.text nameTree = .ok name)
      (noBody : tree.fieldChild? "body" = none)
      (headerLowers : List.Forall₂ (Lowers setting) (headerParts tree) header) :
      Lowers setting tree (.methodDeclaration (setting.span tree) name header none)
  | declaration {tree nameTree body : ConcreteTree} {name : String}
      {header statements : List Node}
      (isKind : tree.kind = "method_declaration" ∨ tree.kind = "constructor_declaration")
      (hasName : tree.fieldChild? "name" = some nameTree)
      (isName : setting.text nameTree = .ok name)
      (hasBody : tree.fieldChild? "body" = some body)
      (headerLowers : List.Forall₂ (Lowers setting) (headerParts tree) header)
      (bodyLowers : List.Forall₂ (Lowers setting) body.parts statements) :
      Lowers setting tree (.methodDeclaration (setting.span tree) name header (some statements))
  | call {tree nameTree argumentList : ConcreteTree} {name : String} {arguments : List Node}
      (isKind : tree.kind = "method_invocation")
      (hasName : tree.fieldChild? "name" = some nameTree)
      (isName : setting.text nameTree = .ok name)
      (hasArguments : tree.fieldChild? "arguments" = some argumentList)
      (noObject : tree.fieldChild? "object" = none)
      (argumentsLower : List.Forall₂ (Lowers setting) argumentList.parts arguments) :
      Lowers setting tree (.methodInvocation (setting.span tree) name none arguments)
  | callOn {tree nameTree argumentList object : ConcreteTree} {name : String} {receiver : Node}
      {arguments : List Node}
      (isKind : tree.kind = "method_invocation")
      (hasName : tree.fieldChild? "name" = some nameTree)
      (isName : setting.text nameTree = .ok name)
      (hasArguments : tree.fieldChild? "arguments" = some argumentList)
      (hasObject : tree.fieldChild? "object" = some object)
      (isReceiver : receiverOn setting tree object = .object)
      (receiverLowers : Lowers setting object receiver)
      (argumentsLower : List.Forall₂ (Lowers setting) argumentList.parts arguments) :
      Lowers setting tree (.methodInvocation (setting.span tree) name (some receiver) arguments)
  | callOnSuper {tree nameTree argumentList object : ConcreteTree} {name : String} {span : Span}
      {receiver : Node} {arguments : List Node}
      (isKind : tree.kind = "method_invocation")
      (hasName : tree.fieldChild? "name" = some nameTree)
      (isName : setting.text nameTree = .ok name)
      (hasArguments : tree.fieldChild? "arguments" = some argumentList)
      (hasObject : tree.fieldChild? "object" = some object)
      (isReceiver : receiverOn setting tree object = .qualifiedSuper span)
      (receiverLowers : Lowers setting object receiver)
      (argumentsLower : List.Forall₂ (Lowers setting) argumentList.parts arguments) :
      Lowers setting tree (.methodInvocation (setting.span tree) name
        (some (.expression span qualifiedSuperKind [receiver])) arguments)
  | variableDeclaration {tree : ConcreteTree} {fragments : List Node}
      (isKind : tree.kind = "local_variable_declaration")
      (fragmentsLower :
        List.Forall₂ (Lowers setting) (tree.fieldChildren "declarator") fragments) :
      Lowers setting tree (.variableDeclaration (setting.span tree) fragments)
  | uninitialized {tree nameTree : ConcreteTree} {name : String}
      (isKind : tree.kind = "variable_declarator")
      (hasName : tree.fieldChild? "name" = some nameTree)
      (isName : setting.text nameTree = .ok name)
      (noValue : tree.fieldChild? "value" = none) :
      Lowers setting tree (.variableFragment (setting.span tree) name none)
  | initialized {tree nameTree value : ConcreteTree} {name : String} {initializer : Node}
      (isKind : tree.kind = "variable_declarator")
      (hasName : tree.fieldChild? "name" = some nameTree)
      (isName : setting.text nameTree = .ok name)
      (hasValue : tree.fieldChild? "value" = some value)
      (valueLowers : Lowers setting value initializer) :
      Lowers setting tree (.variableFragment (setting.span tree) name (some initializer))
  | literal {tree : ConcreteTree} {kind : LiteralKind}
      (isLiteral : LiteralKind.ofGrammarKind? tree.kind = some kind) :
      Lowers setting tree (.literal (setting.span tree) kind)
  | expression {tree : ConcreteTree} {children : List Node}
      (notDedicated : tree.kind ∉ dedicatedKinds)
      (noLiteral : LiteralKind.ofGrammarKind? tree.kind = none)
      (partsLower : List.Forall₂ (Lowers setting) tree.parts children) :
      Lowers setting tree (.expression (setting.span tree) tree.kind children)

theorem forall₂_append_split {relation : ConcreteTree → Node → Prop}
    {left right : List ConcreteTree} {nodes : List Node}
    (related : List.Forall₂ relation (left ++ right) nodes) :
    List.Forall₂ relation left (nodes.take left.length) ∧
      List.Forall₂ relation right (nodes.drop left.length) := by
  constructor
  · simpa using List.forall₂_take left.length related
  · simpa using List.forall₂_drop left.length related

/-- A node that is assembled from the lowered children of its plan has them in the right places. -/
theorem lowers_assemble {setting : Setting} {tree : ConcreteTree} {pending : Pending}
    {children : List ConcreteTree} {nodes : List Node}
    (plans : Plans setting tree (.branch pending children))
    (lowered : List.Forall₂ (Lowers setting) children nodes) :
    Lowers setting tree (pending.assemble nodes) := by
  cases plans with
  | declaration isKind hasName isName =>
      rcases forall₂_append_split lowered with ⟨headerLowers, bodyLowers⟩
      rcases hasBody : tree.fieldChild? "body" with _ | body
      · simp only [Pending.assemble, Option.isSome_none]
        exact .bodiless isKind hasName isName hasBody headerLowers
      · rw [bodyParts, hasBody] at bodyLowers
        exact .declaration isKind hasName isName hasBody headerLowers bodyLowers
  | call isKind hasName isName hasArguments noObject =>
      exact .call isKind hasName isName hasArguments noObject lowered
  | callOn isKind hasName isName hasArguments hasObject =>
      rcases lowered with _ | ⟨receiverLowers, argumentsLower⟩
      rcases isReceiver : receiverOn setting tree _ with _ | _ | span
      · rw [receiverOn] at isReceiver
        split at isReceiver <;> cases isReceiver
      · exact .callOn isKind hasName isName hasArguments hasObject isReceiver receiverLowers
          argumentsLower
      · exact .callOnSuper isKind hasName isName hasArguments hasObject isReceiver receiverLowers
          argumentsLower
  | variableDeclaration isKind => exact .variableDeclaration isKind lowered
  | fragment isKind hasName isName =>
      rcases hasValue : tree.fieldChild? "value" with _ | value
      · rw [hasValue] at lowered
        rcases lowered with _ | _
        exact .uninitialized isKind hasName isName hasValue
      · rw [hasValue] at lowered
        rcases lowered with _ | ⟨valueLowers, _⟩
        exact .initialized isKind hasName isName hasValue valueLowers
  | expression notDedicated noLiteral => exact .expression notDedicated noLiteral lowered

/-- Conversely, a node with its children in the right places is assembled from them. -/
theorem exists_plan_of_lowers {setting : Setting} {tree : ConcreteTree} {node : Node}
    (lowers : Lowers setting tree node) :
    Plans setting tree (.leaf node) ∨
      ∃ pending children nodes, Plans setting tree (.branch pending children) ∧
        List.Forall₂ (Lowers setting) children nodes ∧ node = pending.assemble nodes := by
  cases lowers with
  | @bodiless _ nameTree name header isKind hasName isName noBody headerLowers =>
      refine Or.inr ⟨_, _, header, .declaration isKind hasName isName, ?_, ?_⟩
      · rw [bodyParts, noBody]
        simpa using headerLowers
      · simp [Pending.assemble, noBody, headerLowers.length_eq]
  | @declaration _ nameTree body name header statements isKind hasName isName hasBody headerLowers
      bodyLowers =>
      refine Or.inr ⟨_, _, header ++ statements, .declaration isKind hasName isName, ?_, ?_⟩
      · rw [bodyParts, hasBody]
        exact List.rel_append headerLowers bodyLowers
      · simp [Pending.assemble, hasBody, headerLowers.length_eq]
  | call isKind hasName isName hasArguments noObject argumentsLower =>
      exact Or.inr ⟨_, _, _, .call isKind hasName isName hasArguments noObject, argumentsLower, rfl⟩
  | callOn isKind hasName isName hasArguments hasObject isReceiver receiverLowers argumentsLower =>
      refine Or.inr ⟨_, _, _, .callOn isKind hasName isName hasArguments hasObject,
        .cons receiverLowers argumentsLower, ?_⟩
      simp [Pending.assemble, isReceiver]
  | callOnSuper isKind hasName isName hasArguments hasObject isReceiver receiverLowers
      argumentsLower =>
      refine Or.inr ⟨_, _, _, .callOn isKind hasName isName hasArguments hasObject,
        .cons receiverLowers argumentsLower, ?_⟩
      simp [Pending.assemble, isReceiver]
  | variableDeclaration isKind fragmentsLower =>
      exact Or.inr ⟨_, _, _, .variableDeclaration isKind, fragmentsLower, rfl⟩
  | uninitialized isKind hasName isName noValue =>
      refine Or.inr ⟨_, _, [], .fragment isKind hasName isName, ?_, rfl⟩
      rw [noValue]
      exact .nil
  | initialized isKind hasName isName hasValue valueLowers =>
      refine Or.inr ⟨_, _, [_], .fragment isKind hasName isName, ?_, rfl⟩
      rw [hasValue]
      exact .cons valueLowers .nil
  | literal isLiteral => exact Or.inl (.literal isLiteral)
  | expression notDedicated noLiteral partsLower =>
      exact Or.inr ⟨_, _, _, .expression notDedicated noLiteral, partsLower, rfl⟩

/-- The recursion succeeds with a node just if the tree and the node are related. -/
theorem lowerTree_eq_ok_iff (setting : Setting) (tree : ConcreteTree) (node : Node) :
    lowerTree setting tree = .ok node ↔ Lowers setting tree node := by
  constructor
  · intro isLowered
    rcases isPlan : plan setting tree with defect | leaf | ⟨pending, children⟩
    · rw [lowerTree_eq, isPlan] at isLowered
      cases isLowered
    · rw [lowerTree_eq, isPlan] at isLowered
      cases isLowered
      rcases plans_of_plan isPlan with _ | _ | _ | _ | _ | isLiteral
      exact .literal isLiteral
    · rw [lowerTree_branch isPlan] at isLowered
      rcases areLowered : children.mapM (lowerTree setting) with defect | nodes
      · rw [areLowered] at isLowered
        cases isLowered
      · rw [areLowered] at isLowered
        cases isLowered
        apply lowers_assemble (plans_of_plan isPlan)
        apply forall₂_imp _ (mapM_eq_ok_iff.mp areLowered)
        intro child childMem childNode
        exact (lowerTree_eq_ok_iff setting child childNode).mp
  · intro lowers
    rcases exists_plan_of_lowers lowers with plans | ⟨pending, children, nodes, plans, related, rfl⟩
    · rw [lowerTree_eq, plan_of_plans plans]
    · have isPlan := plan_of_plans plans
      have areLowered : children.mapM (lowerTree setting) = .ok nodes := by
        rw [mapM_eq_ok_iff]
        apply forall₂_imp _ related
        intro child childMem childNode
        exact (lowerTree_eq_ok_iff setting child childNode).mpr
      rw [lowerTree_branch isPlan, areLowered]
      rfl
termination_by sizeOf tree
decreasing_by all_goals exact sizeOf_lt_of_mem_planned isPlan childMem

/-! ## The first plan that fails -/

/-- The trees that become the children of a node, if it can be planned. -/
def plannedChildren (setting : Setting) (tree : ConcreteTree) : List ConcreteTree :=
  match plan setting tree with
  | .ok (.branch _ children) => children
  | _ => []

theorem totalSize_plannedChildren_lt (setting : Setting) (tree : ConcreteTree) :
    totalSize (plannedChildren setting tree) < sizeOf tree := by
  rw [plannedChildren]
  split
  · next isPlan => exact totalSize_plan_lt isPlan
  · have all := tree.totalSize_children_lt
    simp only [totalSize]
    omega

theorem sizeOf_lt_of_mem_plannedChildren {setting : Setting} {tree child : ConcreteTree}
    (isChild : child ∈ plannedChildren setting tree) : sizeOf child < sizeOf tree :=
  Nat.lt_of_le_of_lt (sizeOf_le_totalSize_of_mem isChild)
    (totalSize_plannedChildren_lt setting tree)

/-- The trees that are planned to lower a tree, in pre-order. -/
def plannedNodes (setting : Setting) (tree : ConcreteTree) : List ConcreteTree :=
  tree :: (plannedChildren setting tree).attach.flatMap fun child => plannedNodes setting child.1
termination_by sizeOf tree
decreasing_by exact sizeOf_lt_of_mem_plannedChildren child.2

/-- The trees that are planned to lower some trees one after another. -/
def plannedAll (setting : Setting) (trees : List ConcreteTree) : List ConcreteTree :=
  trees.flatMap (plannedNodes setting)

theorem plannedAll_cons (setting : Setting) (tree : ConcreteTree) (rest : List ConcreteTree) :
    plannedAll setting (tree :: rest) =
      tree :: plannedAll setting (plannedChildren setting tree ++ rest) := by
  simp only [plannedAll, List.flatMap_cons, List.flatMap_append]
  rw [plannedNodes, List.flatMap_subtype (g := plannedNodes setting) (by intros; rfl),
    List.unattach_attach, List.cons_append]

/-- Induction along trees of which the first one is replaced by its planned children. -/
theorem planned_induction (setting : Setting) {motive : List ConcreteTree → Prop}
    (trees : List ConcreteTree) (nil : motive [])
    (cons : ∀ tree rest, motive (plannedChildren setting tree ++ rest) → motive (tree :: rest)) :
    motive trees :=
  match trees with
  | [] => nil
  | tree :: rest =>
      cons tree rest (planned_induction setting (plannedChildren setting tree ++ rest) nil cons)
termination_by totalSize trees
decreasing_by
  have smaller := totalSize_plannedChildren_lt setting tree
  rw [totalSize_append, totalSize_cons]
  omega

/-- A tree that can be planned is lowered by lowering its planned children in its place. -/
theorem mapM_lowerTree_of_plan {setting : Setting} {tree : ConcreteTree}
    (planned : Succeeds (plan setting tree)) (rest : List ConcreteTree) :
    ∃ join : List Node → List Node,
      (tree :: rest).mapM (lowerTree setting) =
        ((plannedChildren setting tree ++ rest).mapM (lowerTree setting)).map join := by
  rcases planned with ⟨leaf | ⟨pending, children⟩, isPlan⟩
  · have isLowered : lowerTree setting tree = .ok leaf := by
      rw [lowerTree_eq, isPlan]
    have noChildren : plannedChildren setting tree = [] := by
      rw [plannedChildren, isPlan]
    rw [mapM_cons_ok isLowered, noChildren, List.nil_append]
    exact ⟨(leaf :: ·), rfl⟩
  · have isLowered := lowerTree_branch isPlan
    have areChildren : plannedChildren setting tree = children := by
      rw [plannedChildren, isPlan]
    refine ⟨fun nodes => pending.assemble (nodes.take children.length) ::
      nodes.drop children.length, ?_⟩
    rw [areChildren, List.mapM_append]
    rcases areLowered : children.mapM (lowerTree setting) with defect | nodes
    · rw [areLowered] at isLowered
      exact mapM_cons_error isLowered
    · have sameLength := (mapM_eq_ok_iff.mp areLowered).length_eq
      rw [areLowered] at isLowered
      rw [mapM_cons_ok isLowered]
      cases rest.mapM (lowerTree setting) with
      | error defect => rfl
      | ok later => simp [bind, Except.bind, pure, Except.pure, Except.map, sameLength]

theorem mapM_lowerTree_succeeds {setting : Setting} {trees : List ConcreteTree}
    (planned : ∀ tree ∈ plannedAll setting trees, Succeeds (plan setting tree)) :
    Succeeds (trees.mapM (lowerTree setting)) := by
  induction trees using planned_induction setting with
  | nil => exact ⟨[], rfl⟩
  | cons tree rest ih =>
      rw [plannedAll_cons] at planned
      rcases mapM_lowerTree_of_plan (planned tree (by simp)) rest with ⟨join, same⟩
      rcases ih fun other otherMem => planned other (by simp [otherMem]) with ⟨nodes, isOk⟩
      rw [same, isOk]
      exact ⟨join nodes, rfl⟩

theorem mapM_lowerTree_error {setting : Setting} {trees : List ConcreteTree}
    {failing : ConcreteTree} {defect : TreeDefect}
    (reached :
      Reached (fun tree => Succeeds (plan setting tree)) (plannedAll setting trees) failing)
    (fails : plan setting failing = .error defect) :
    trees.mapM (lowerTree setting) = .error defect := by
  have notPlanned : ¬Succeeds (plan setting failing) := by
    rintro ⟨result, isPlan⟩
    rw [fails] at isPlan
    cases isPlan
  induction trees using planned_induction setting with
  | nil => exact absurd reached.mem (by simp [plannedAll])
  | cons tree rest ih =>
      rw [plannedAll_cons] at reached
      by_cases planned : Succeeds (plan setting tree)
      · rcases mapM_lowerTree_of_plan planned rest with ⟨join, same⟩
        rw [same, ih (reached.tail notPlanned planned)]
        rfl
      · have isFailing := reached.eq_head planned
        subst isFailing
        apply mapM_cons_error
        rw [lowerTree_eq, fails]

theorem bind_eq_error {α β ε : Type} {attempt : Except ε α} {next : α → Except ε β} {error : ε}
    (isError : attempt >>= next = .error error) :
    attempt = .error error ∨ ∃ value, next value = .error error := by
  cases attempt with
  | error other =>
      cases isError
      exact Or.inl rfl
  | ok value => exact Or.inr ⟨value, isError⟩

/-- A defect that is found while a node is planned: it lacks a field, or its name is no text. -/
def IsPlanDefect (defect : TreeDefect) : Prop :=
  (∃ kind start field, defect = .missingField kind start field) ∨
    ∃ kind fault, defect = .notText kind fault

theorem isPlanDefect_of_requiredChild {setting : Setting} {tree : ConcreteTree} {field : String}
    {defect : TreeDefect} (isError : setting.requiredChild tree field = .error defect) :
    IsPlanDefect defect := by
  rw [Setting.requiredChild] at isError
  split at isError
  · cases isError
  · cases isError
    exact Or.inl ⟨_, _, _, rfl⟩

theorem isPlanDefect_of_text {setting : Setting} {tree : ConcreteTree} {defect : TreeDefect}
    (isError : setting.text tree = .error defect) : IsPlanDefect defect := by
  rw [Setting.text] at isError
  split at isError
  · cases isError
  · cases isError
    exact Or.inr ⟨_, _, rfl⟩

theorem isPlanDefect_of_plan {setting : Setting} {tree : ConcreteTree} {defect : TreeDefect}
    (fails : plan setting tree = .error defect) : IsPlanDefect defect := by
  rw [plan] at fails
  split at fails
  · rcases bind_eq_error fails with noName | ⟨nameTree, fails⟩
    · exact isPlanDefect_of_requiredChild noName
    rcases bind_eq_error fails with noText | ⟨name, fails⟩
    · exact isPlanDefect_of_text noText
    · cases fails
  split at fails
  · rcases bind_eq_error fails with noName | ⟨nameTree, fails⟩
    · exact isPlanDefect_of_requiredChild noName
    rcases bind_eq_error fails with noArguments | ⟨arguments, fails⟩
    · exact isPlanDefect_of_requiredChild noArguments
    rcases bind_eq_error fails with noText | ⟨name, fails⟩
    · exact isPlanDefect_of_text noText
    · split at fails <;> cases fails
  split at fails
  · cases fails
  split at fails
  · rcases bind_eq_error fails with noName | ⟨nameTree, fails⟩
    · exact isPlanDefect_of_requiredChild noName
    rcases bind_eq_error fails with noText | ⟨name, fails⟩
    · exact isPlanDefect_of_text noText
    · cases fails
  · split at fails <;> cases fails

/-! ## Lowering as a whole -/

theorem lowerAll_eq_ok_iff {setting : Setting} {trees : List ConcreteTree} {nodes : List Node} :
    lowerAll setting trees = .ok nodes ↔ List.Forall₂ (Lowers setting) trees nodes := by
  rw [lowerAll_eq_mapM, mapM_eq_ok_iff]
  simp only [lowerTree_eq_ok_iff]

theorem lowerAll_eq_error_iff {setting : Setting} {trees : List ConcreteTree}
    {defect : TreeDefect} :
    lowerAll setting trees = .error defect ↔
      ∃ tree, Reached (fun tree => Succeeds (plan setting tree)) (plannedAll setting trees) tree ∧
        plan setting tree = .error defect := by
  rw [lowerAll_eq_mapM]
  constructor
  · intro isError
    rcases all_or_reached (fun tree => Succeeds (plan setting tree)) (plannedAll setting trees)
      with planned | ⟨tree, reached, notPlanned⟩
    · rcases mapM_lowerTree_succeeds planned with ⟨nodes, isOk⟩
      rw [isOk] at isError
      cases isError
    · rcases isPlan : plan setting tree with other | result
      · rw [mapM_lowerTree_error reached isPlan] at isError
        cases isError
        exact ⟨tree, reached, isPlan⟩
      · exact absurd ⟨result, isPlan⟩ notPlanned
  · rintro ⟨tree, reached, fails⟩
    exact mapM_lowerTree_error reached fails

theorem isPlanDefect_of_lowerAll {setting : Setting} {trees : List ConcreteTree}
    {defect : TreeDefect} (isError : lowerAll setting trees = .error defect) :
    IsPlanDefect defect := by
  rcases lowerAll_eq_error_iff.mp isError with ⟨tree, _, fails⟩
  exact isPlanDefect_of_plan fails

/-- Lowering one tree is the recursion: the loop never comes out without a node. -/
theorem lower_eq_lowerTree (setting : Setting) (tree : ConcreteTree) :
    lower setting tree = lowerTree setting tree := by
  rw [lower, lowerAll_eq_mapM]
  rcases isLowered : lowerTree setting tree with defect | node
  · rw [mapM_cons_error isLowered]
  · rw [mapM_cons_ok isLowered]
    rfl

/--
The loop with its two stacks returns what the recursion returns: one node for each tree, with its
children in the right places, or the defect of the first plan in pre-order that fails. So no node
ever loses its children, and no tree is lowered to nothing.
-/
theorem lowerAll_eq_recursion (setting : Setting) (trees : List ConcreteTree) :
    lowerAll setting trees = trees.mapM (lowerTree setting) ∧
      (∀ nodes, lowerAll setting trees = .ok nodes ↔
        List.Forall₂ (Lowers setting) trees nodes) ∧
      (∀ defect, lowerAll setting trees = .error defect ↔
        ∃ tree, Reached (fun tree => Succeeds (plan setting tree)) (plannedAll setting trees) tree ∧
          plan setting tree = .error defect) ∧
      (∀ tree, lower setting tree = lowerTree setting tree) ∧
      (∀ start, lowerAll setting trees ≠ .error (.lostChildren start)) ∧
      (∀ tree start, lower setting tree ≠ .error (.lostChildren start)) ∧
      ∀ tree kind, lower setting tree ≠ .error (.vanished kind) := by
  have ofLower : ∀ tree defect, lower setting tree = .error defect → IsPlanDefect defect := by
    intro tree defect isError
    have asList : lowerAll setting [tree] = .error defect := by
      rw [lower_eq_lowerTree] at isError
      rw [lowerAll_eq_mapM]
      exact mapM_cons_error isError
    exact isPlanDefect_of_lowerAll asList
  refine ⟨lowerAll_eq_mapM setting trees, fun nodes => lowerAll_eq_ok_iff,
    fun defect => lowerAll_eq_error_iff, lower_eq_lowerTree setting, ?_, ?_, ?_⟩
  · intro start isError
    rcases isPlanDefect_of_lowerAll isError with ⟨_, _, _, other⟩ | ⟨_, _, other⟩ <;> cases other
  · intro tree start isError
    rcases ofLower tree _ isError with ⟨_, _, _, other⟩ | ⟨_, _, other⟩ <;> cases other
  · intro tree kind isError
    rcases ofLower tree _ isError with ⟨_, _, _, other⟩ | ⟨_, _, other⟩ <;> cases other

end Lowering

end JavaFacts
