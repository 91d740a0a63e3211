import Mathlib.Tactic.MkIffOfInductiveProp
import JavaFacts.Proofs.ShownNodes
import JavaFacts.Proofs.WellMade

/-!
# The methods that lowering keeps

A method is kept just if its node is shown. So a method is lost that stands in a string template, in
an annotation or a type of local variables, or in the type arguments of a call. All other methods
are kept, and none is kept twice.

The grammar is used for what is left out beside that: tokens, comments and names hold no method, and
the levels that are left out have their methods in their parts.
-/

namespace JavaFacts

open InOrder

/-! ## Methods -/

/-- What a node can do with a method. -/
inductive MethodRole where
  | declaration
  | invocation
deriving DecidableEq

/-- The method that a node declares or calls, with the span of the node. -/
def Node.method? : MethodRole → Node → Option (String × Span)
  | .declaration, methodDeclaration span name _ _ => some (name, span)
  | .invocation, methodInvocation span name _ _ => some (name, span)
  | _, _ => none

/-- All methods that are declared or called in a tree. -/
def Node.methodsIn (role : MethodRole) (node : Node) : List (String × Span) :=
  node.subtrees.filterMap (method? role)

namespace Lowering

open ConcreteTree

/-- The kinds of concrete nodes that declare or call a method. -/
def kindsOf : MethodRole → List String
  | .declaration => ["method_declaration", "constructor_declaration"]
  | .invocation => ["method_invocation"]

/-- The method that a concrete node declares or calls, with the span that its node would have. -/
def Setting.method? (setting : Setting) (role : MethodRole) (tree : ConcreteTree) :
    Option (String × Span) :=
  if tree.kind ∈ kindsOf role then
    (tree.fieldChild? "name").bind fun nameTree =>
      (setting.text nameTree).toOption.map fun name => (name, setting.span tree)
  else none

/-- The methods that are declared or called in what is shown of a tree. -/
def Setting.shownMethods (setting : Setting) (role : MethodRole) (tree : ConcreteTree) :
    List (String × Span) :=
  tree.shown.filterMap (setting.method? role)

theorem kindsOf_subset (role : MethodRole) : kindsOf role ⊆ methodKinds := by
  cases role <;> simp [kindsOf, methodKinds]

theorem methodKinds_subset : methodKinds ⊆ dedicatedKinds := by
  simp [methodKinds, dedicatedKinds]

theorem method?_of_not_method {setting : Setting} {role : MethodRole} {tree : ConcreteTree}
    (noMethod : tree.kind ∉ methodKinds) : setting.method? role tree = none :=
  if_neg fun isKind => noMethod (kindsOf_subset role isKind)

theorem method?_of_name {setting : Setting} {role : MethodRole} {tree nameTree : ConcreteTree}
    {name : String} (isKind : tree.kind ∈ kindsOf role)
    (hasName : tree.fieldChild? "name" = some nameTree)
    (isName : setting.text nameTree = .ok name) :
    setting.method? role tree = some (name, setting.span tree) := by
  rw [Setting.method?, if_pos isKind, hasName, Option.bind_some, isName]
  rfl

theorem method?_of_declaration {setting : Setting} {tree nameTree : ConcreteTree} {name : String}
    (isKind : tree.kind = "method_declaration" ∨ tree.kind = "constructor_declaration")
    (hasName : tree.fieldChild? "name" = some nameTree) (isName : setting.text nameTree = .ok name)
    (role : MethodRole) (header : List Node) (body : Option (List Node)) :
    (Node.methodDeclaration (setting.span tree) name header body).method? role =
      setting.method? role tree := by
  cases role with
  | declaration =>
      rw [method?_of_name (by simpa [kindsOf] using isKind) hasName isName]
      rfl
  | invocation =>
      rw [Setting.method?, if_neg]
      · rfl
      · rcases isKind with isKind | isKind <;> simp [kindsOf, isKind]

theorem method?_of_call {setting : Setting} {tree nameTree : ConcreteTree} {name : String}
    (isKind : tree.kind = "method_invocation")
    (hasName : tree.fieldChild? "name" = some nameTree) (isName : setting.text nameTree = .ok name)
    (role : MethodRole) (receiver : Option Node) (arguments : List Node) :
    (Node.methodInvocation (setting.span tree) name receiver arguments).method? role =
      setting.method? role tree := by
  cases role with
  | declaration =>
      rw [Setting.method?, if_neg (by simp [kindsOf, isKind])]
      rfl
  | invocation =>
      rw [method?_of_name (by simp [kindsOf, isKind]) hasName isName]
      rfl

/-- A node declares or calls the method that the tree does from which it is lowered. -/
theorem method?_of_lowers {setting : Setting} {tree : ConcreteTree} {node : Node}
    (lowers : Lowers setting tree node) (role : MethodRole) :
    node.method? role = setting.method? role tree := by
  cases lowers with
  | bodiless isKind hasName isName => exact method?_of_declaration isKind hasName isName role _ _
  | declaration isKind hasName isName => exact method?_of_declaration isKind hasName isName role _ _
  | call isKind hasName isName => exact method?_of_call isKind hasName isName role _ _
  | callOn isKind hasName isName => exact method?_of_call isKind hasName isName role _ _
  | callOnSuper isKind hasName isName => exact method?_of_call isKind hasName isName role _ _
  | variableDeclaration isKind =>
      rw [method?_of_not_method (by simp [methodKinds, isKind])]
      cases role <;> rfl
  | uninitialized isKind =>
      rw [method?_of_not_method (by simp [methodKinds, isKind])]
      cases role <;> rfl
  | initialized isKind =>
      rw [method?_of_not_method (by simp [methodKinds, isKind])]
      cases role <;> rfl
  | literal isLiteral =>
      rw [method?_of_not_method]
      · cases role <;> rfl
      · intro isMethod
        rw [ofGrammarKind?_of_mem_dedicatedKinds (methodKinds_subset isMethod)] at isLiteral
        cases isLiteral
  | expression notDedicated =>
      rw [method?_of_not_method fun isMethod => notDedicated (methodKinds_subset isMethod)]
      cases role <;> rfl

/-! ## Lowering keeps what is shown -/

/-- A node without children that is no method. -/
@[mk_iff]
structure IsBare (tree : ConcreteTree) : Prop where
  noChildren : tree.children = []
  noMethod : tree.kind ∉ methodKinds

/-- What the grammar makes sure of about methods at a node of the tree of a text. -/
@[mk_iff]
structure Orderly (text : String) (tree : ConcreteTree) : Prop where
  start : IsPosition text tree.label.start
  stop : IsPosition text tree.label.stop
  /-- A token or a comment is bare. -/
  bare : tree.isPart = false → IsBare tree
  /-- A method has a name. -/
  named : tree.kind ∈ methodKinds → ∃ nameTree ∈ tree.fieldChild? "name", IsBare nameTree
  body : tree.kind ∈ kindsOf .declaration →
    ∀ body ∈ tree.fieldChild? "body", body.kind = "block" ∨ body.kind = "constructor_body"
  arguments : tree.kind = "method_invocation" →
    ∃ arguments ∈ tree.fieldChild? "arguments", arguments.kind = "argument_list"
  declarator : tree.kind = "variable_declarator" → (tree.fieldChild? "name").isSome
  single : tree.kind = "method_invocation" ∨ tree.kind = "variable_declarator" →
    ∀ field ∈ ["object", "arguments", "value"], (tree.fieldChildren field).length ≤ 1

instance (tree : ConcreteTree) : Decidable (IsBare tree) := decidable_of_iff' _ (isBare_iff tree)

instance (text : String) (tree : ConcreteTree) : Decidable (Orderly text tree) :=
  decidable_of_iff' _ (orderly_iff text tree)

theorem methodsIn_eq (role : MethodRole) (node : Node) :
    node.methodsIn role =
      (node.method? role).toList ++ node.declaredChildren.flatMap (Node.methodsIn role) := by
  rw [Node.methodsIn, Node.subtrees_eq, ← List.singleton_append, List.filterMap_append,
    List.filterMap_flatMap, List.filterMap_eq_flatMap_toList, List.flatMap_singleton]
  rfl

theorem shownMethods_eq (setting : Setting) (role : MethodRole) (tree : ConcreteTree) :
    setting.shownMethods role tree =
      (setting.method? role tree).toList ++
        tree.shownChildren.flatMap (setting.shownMethods role) := by
  rw [Setting.shownMethods, shown_eq, ← List.singleton_append, List.filterMap_append,
    List.filterMap_flatMap, List.filterMap_eq_flatMap_toList, List.flatMap_singleton]
  rfl

theorem methodsIn_qualifiedSuper (role : MethodRole) (span : Span) (object : Node) :
    (Node.expression span qualifiedSuperKind [object]).methodsIn role = object.methodsIn role := by
  rw [methodsIn_eq, Node.declaredChildren, List.flatMap_singleton]
  cases role <;> rfl

theorem shownMethods_of_isBare {tree : ConcreteTree} (isBare : IsBare tree) (setting : Setting)
    (role : MethodRole) : setting.shownMethods role tree = [] := by
  rw [shownMethods_eq, method?_of_not_method isBare.noMethod, shownChildren, isBare.noChildren]
  rfl

/-- A node has the methods of the nodes that it is assembled from below it. -/
theorem flatMap_methodsIn_assemble {setting : Setting} {tree : ConcreteTree} {pending : Pending}
    {children : List ConcreteTree} {nodes : List Node}
    (plans : Plans setting tree (.branch pending children))
    (sameLength : nodes.length = children.length) (role : MethodRole) :
    (pending.assemble nodes).declaredChildren.flatMap (Node.methodsIn role) =
      nodes.flatMap (Node.methodsIn role) := by
  cases plans with
  | declaration isKind hasName isName =>
      rcases hasBody : tree.fieldChild? "body" with _ | body
      · have allHeader : nodes.take (headerParts tree).length = nodes := by
          apply List.take_of_length_le
          rw [sameLength, bodyParts, hasBody]
          simp
        simp [Pending.assemble, Node.declaredChildren, allHeader]
      · simp [Pending.assemble, Node.declaredChildren]
  | call isKind hasName isName hasArguments noObject => rfl
  | @callOn nameTree arguments object name isKind hasName isName hasArguments hasObject =>
      rcases nodes with _ | ⟨receiver, rest⟩
      · simp at sameLength
      · rcases receiverOn setting tree object with _ | _ | span
        · rfl
        · rfl
        · simp [Pending.assemble, Node.declaredChildren, methodsIn_qualifiedSuper]
  | variableDeclaration isKind => rfl
  | fragment isKind hasName isName =>
      rcases nodes with _ | ⟨value, _ | ⟨other, rest⟩⟩
      · rfl
      · rfl
      · rcases hasValue : tree.fieldChild? "value" with _ | value <;> simp [hasValue] at sameLength
  | expression notDedicated noLiteral => rfl

theorem shownChildren_eq_children {tree : ConcreteTree}
    (notChosen : tree.kind ∉ ["method_invocation", "local_variable_declaration",
      "variable_declarator"])
    (noLiteral : LiteralKind.ofGrammarKind? tree.kind = none) :
    tree.shownChildren = tree.children := by
  simp only [List.mem_cons, List.not_mem_nil, or_false, not_or] at notChosen
  rw [shownChildren, List.filter_eq_self]
  intro child _
  simp [shows, notChosen, noLiteral]

/-- Children that are no parts can be left out, since they are bare. -/
theorem flatMap_shownMethods_filter {text : String} {trees : List ConcreteTree}
    (orderly : ∀ tree ∈ trees, Orderly text tree) (setting : Setting) (role : MethodRole) :
    (trees.filter isPart).flatMap (setting.shownMethods role) =
      trees.flatMap (setting.shownMethods role) := by
  induction trees with
  | nil => rfl
  | cons tree rest ih =>
      rw [List.forall_mem_cons] at orderly
      rw [List.filter_cons]
      split
      · rw [List.flatMap_cons, List.flatMap_cons, ih orderly.2]
      · next notPart =>
        have isBare := orderly.1.bare (by simpa using notPart)
        rw [List.flatMap_cons, ih orderly.2, shownMethods_of_isBare isBare, List.nil_append]

/-- The kinds of nodes that are left out, with their parts in their place. -/
def levelKinds : List String := ["program", "block", "constructor_body", "argument_list"]

/-- A level that is left out has the methods of its parts. -/
theorem shownMethods_of_level {text : String} {tree : ConcreteTree}
    (orderly : ∀ child ∈ tree.children, Orderly text child)
    (isLevel : tree.kind ∈ levelKinds) (setting : Setting) (role : MethodRole) :
    setting.shownMethods role tree = tree.parts.flatMap (setting.shownMethods role) := by
  have checked : ∀ kind ∈ levelKinds,
      kind ∉ methodKinds ∧
        kind ∉ ["method_invocation", "local_variable_declaration", "variable_declarator"] ∧
        LiteralKind.ofGrammarKind? kind = none := by
    decide
  rcases checked tree.kind isLevel with ⟨noMethod, notChosen, noLiteral⟩
  rw [shownMethods_eq, method?_of_not_method noMethod,
    shownChildren_eq_children notChosen noLiteral, parts, flatMap_shownMethods_filter orderly]
  rfl

theorem filter_or_perm {α : Type} (left right : α → Bool) (elements : List α)
    (apart : ∀ element, left element = true → right element = false) :
    (elements.filter fun element => left element || right element).Perm
      (elements.filter left ++ elements.filter right) := by
  have split := List.filter_append_perm left (elements.filter fun element =>
    left element || right element)
  rw [List.filter_filter, List.filter_filter] at split
  refine split.symm.trans (List.Perm.of_eq ?_)
  congr 1
  · apply List.filter_congr
    intro element _
    cases left element <;> rfl
  · apply List.filter_congr
    intro element _
    rcases isLeft : left element with _ | _
    · simp
    · simp [apart element isLeft]

/-- Below a call the object and the arguments are shown. -/
theorem shownChildren_invocation_perm {text : String} {tree : ConcreteTree}
    (orderly : Orderly text tree) (isKind : tree.kind = "method_invocation") :
    tree.shownChildren.Perm
      ((tree.fieldChild? "object").toList ++ (tree.fieldChild? "arguments").toList) := by
  have isShown : tree.shownChildren = tree.children.filter fun child =>
      isInField "object" child || isInField "arguments" child := by
    rw [shownChildren]
    apply List.filter_congr
    intro child _
    rw [shows, if_pos isKind]
  rw [isShown, ← fieldChildren_eq_toList (orderly.single (Or.inl isKind) "object" (by simp)),
    ← fieldChildren_eq_toList (orderly.single (Or.inl isKind) "arguments" (by simp))]
  apply filter_or_perm
  intro child isObject
  simp only [isInField, beq_iff_eq] at isObject
  simp [isInField, isObject]

theorem orderly_children {text : String} {tree child : ConcreteTree}
    (orderly : ∀ inner ∈ tree.preorder, Orderly text inner) (isChild : child ∈ tree.children) :
    ∀ inner ∈ child.children, Orderly text inner := by
  intro inner isInner
  exact orderly inner (mem_preorder_trans (mem_preorder_of_mem_children isChild)
    (mem_preorder_of_mem_children isInner))

/-- Below a declaration the name is bare, and the body stands for its parts. -/
theorem flatMap_declaration_perm {text : String} {tree : ConcreteTree}
    (orderly : ∀ inner ∈ tree.preorder, Orderly text inner)
    (isKind : tree.kind = "method_declaration" ∨ tree.kind = "constructor_declaration")
    (setting : Setting) (role : MethodRole) :
    ((headerParts tree ++ bodyParts tree).flatMap (setting.shownMethods role)).Perm
      (tree.children.flatMap (setting.shownMethods role)) := by
  have here := orderly tree tree.mem_preorder_self
  have ofName : (tree.fieldChild? "name").toList.flatMap (setting.shownMethods role) = [] := by
    rcases here.named (mem_methodKinds_of_declaration isKind) with ⟨nameTree, hasName, isBare⟩
    rw [hasName, Option.toList_some, List.flatMap_singleton, shownMethods_of_isBare isBare]
  have ofBody : (tree.fieldChild? "body").toList.flatMap (setting.shownMethods role) =
      (bodyParts tree).flatMap (setting.shownMethods role) := by
    rw [bodyParts]
    rcases hasBody : tree.fieldChild? "body" with _ | body
    · rfl
    · have isLevel := here.body (by simpa [kindsOf] using isKind) body hasBody
      rw [Option.toList_some, List.flatMap_singleton,
        shownMethods_of_level (orderly_children orderly (mem_children_of_fieldChild? hasBody))
          (by rcases isLevel with isLevel | isLevel <;> simp [levelKinds, isLevel])]
      rfl
  have ofHeader : (headerParts tree).flatMap (setting.shownMethods role) =
      (tree.childrenExcept [tree.fieldIndex? "name", tree.fieldIndex? "body"]).flatMap
        (setting.shownMethods role) := by
    apply flatMap_shownMethods_filter
    intro child isChild
    exact orderly child (mem_preorder_of_mem_children ((pickFrom_sublist _ _ _).subset isChild))
  have split := (tree.children_perm_fields (by decide : "name" ≠ "body")).flatMap_right
    (setting.shownMethods role)
  rw [List.flatMap_append, List.flatMap_append, ofName, ofBody, List.nil_append, ← ofHeader]
    at split
  rw [List.flatMap_append]
  exact List.perm_append_comm.trans split.symm

/-- The nodes that a node is planned with hold the methods of the children that are shown. -/
theorem flatMap_planned_perm {text : String} {setting : Setting} {tree : ConcreteTree}
    {pending : Pending} {children : List ConcreteTree}
    (orderly : ∀ inner ∈ tree.preorder, Orderly text inner)
    (plans : Plans setting tree (.branch pending children)) (role : MethodRole) :
    (children.flatMap (setting.shownMethods role)).Perm
      (tree.shownChildren.flatMap (setting.shownMethods role)) := by
  have here := orderly tree tree.mem_preorder_self
  have ofArguments : ∀ arguments, tree.kind = "method_invocation" →
      tree.fieldChild? "arguments" = some arguments →
      setting.shownMethods role arguments =
        arguments.parts.flatMap (setting.shownMethods role) := by
    intro arguments isKind hasArguments
    rcases here.arguments isKind with ⟨other, isOther, isList⟩
    cases Option.some.inj (hasArguments.symm.trans isOther)
    have isLevel : arguments.kind ∈ levelKinds := by simp [levelKinds, isList]
    exact shownMethods_of_level
      (orderly_children orderly (mem_children_of_fieldChild? hasArguments)) isLevel setting role
  cases plans with
  | declaration isKind hasName isName =>
      rw [shownChildren_eq_children]
      · exact flatMap_declaration_perm orderly isKind setting role
      · rcases isKind with isKind | isKind <;> simp [isKind]
      · exact ofGrammarKind?_of_mem_dedicatedKinds
          (methodKinds_subset (mem_methodKinds_of_declaration isKind))
  | call isKind hasName isName hasArguments noObject =>
      have split := (shownChildren_invocation_perm here isKind).flatMap_right
        (setting.shownMethods role)
      rw [noObject, hasArguments, Option.toList_none, Option.toList_some, List.nil_append,
        List.flatMap_singleton, ofArguments _ isKind hasArguments] at split
      exact split.symm
  | callOn isKind hasName isName hasArguments hasObject =>
      have split := (shownChildren_invocation_perm here isKind).flatMap_right
        (setting.shownMethods role)
      rw [hasObject, hasArguments, Option.toList_some, Option.toList_some, List.singleton_append,
        List.flatMap_cons, List.flatMap_singleton, ofArguments _ isKind hasArguments] at split
      exact split.symm
  | variableDeclaration isKind =>
      have isShown : tree.shownChildren = tree.fieldChildren "declarator" := by
        apply List.filter_congr
        intro child _
        simp [shows, isKind]
      rw [isShown]
  | fragment isKind hasName isName =>
      have isShown : tree.shownChildren = tree.fieldChildren "value" := by
        apply List.filter_congr
        intro child _
        simp [shows, isKind]
      rw [isShown, fieldChildren_eq_toList (here.single (Or.inr isKind) "value" (by simp))]
  | expression notDedicated noLiteral =>
      rw [shownChildren_eq_children _ noLiteral, parts, flatMap_shownMethods_filter]
      · intro child isChild
        exact orderly child (mem_preorder_of_mem_children isChild)
      · simp only [dedicatedKinds, List.mem_cons, List.not_mem_nil, or_false, not_or]
          at notDedicated ⊢
        exact notDedicated.2.2

theorem shownChildren_of_literal {tree : ConcreteTree} {kind : LiteralKind}
    (isLiteral : LiteralKind.ofGrammarKind? tree.kind = some kind) : tree.shownChildren = [] := by
  have notDedicated : tree.kind ∉ dedicatedKinds := by
    intro dedicated
    rw [ofGrammarKind?_of_mem_dedicatedKinds dedicated] at isLiteral
    cases isLiteral
  simp only [dedicatedKinds, List.mem_cons, List.not_mem_nil, or_false, not_or] at notDedicated
  rw [shownChildren, List.filter_eq_nil_iff]
  intro child _
  simp [shows, notDedicated, isLiteral]

/-- A node has just the methods that are shown in the tree from which it is lowered. -/
theorem methodsIn_perm_of_lowers {text : String} {setting : Setting} {tree : ConcreteTree}
    {node : Node} (orderly : ∀ inner ∈ tree.preorder, Orderly text inner)
    (lowers : Lowers setting tree node) (role : MethodRole) :
    (node.methodsIn role).Perm (setting.shownMethods role tree) := by
  -- By induction on the size; a plan puts the shown methods in another order at most.
  rw [methodsIn_eq, shownMethods_eq, method?_of_lowers lowers]
  apply List.Perm.append_left
  rcases exists_plan_of_lowers lowers with plans | ⟨pending, children, nodes, plans, related, rfl⟩
  · cases plans with
    | literal isLiteral =>
        rw [shownChildren_of_literal isLiteral]
        exact .refl _
  · rw [flatMap_methodsIn_assemble plans related.length_eq.symm]
    refine List.Perm.trans (flatMap_perm_of_forall₂ ?_) (flatMap_planned_perm orderly plans role)
    apply forall₂_imp _ related
    intro child isChild childNode childLowers
    have below := forall_preorder_of_plans orderly plans isChild
    exact methodsIn_perm_of_lowers below childLowers role
termination_by sizeOf tree
decreasing_by exact sizeOf_lt_of_mem_planned (plan_of_plans plans) isChild

/-! ## Lowering succeeds -/

theorem text_succeeds {text : String} {tree : ConcreteTree} (orderly : Orderly text tree)
    (shift : Nat) : Succeeds (Setting.text ⟨text.toUTF8, shift⟩ tree) := by
  rcases Option.isSome_iff_exists.mp (pos?_isSome_iff.mpr orderly.start) with ⟨first, isFirst⟩
  rcases Option.isSome_iff_exists.mp (pos?_isSome_iff.mpr orderly.stop) with ⟨last, isLast⟩
  have isValid : (text.toUTF8.extract tree.label.start tree.label.stop).IsValidUTF8 := by
    have ofExtract := (text.extract first last).isValidUTF8
    rwa [String.toByteArray_extract, offset_of_pos? isFirst, offset_of_pos? isLast] at ofExtract
  refine ⟨String.fromUTF8 _ isValid, ?_⟩
  have isDecoded : Text.Utf8.decode (text.toUTF8.extract tree.label.start tree.label.stop) =
      .ok (String.fromUTF8 _ isValid) := by
    rw [Text.Utf8.decode, String.fromUTF8?, dif_pos isValid]
  rw [Setting.text, isDecoded]

theorem exists_name {text : String} {tree nameTree : ConcreteTree} {field : String}
    (orderly : ∀ inner ∈ tree.preorder, Orderly text inner)
    (hasName : tree.fieldChild? field = some nameTree) (shift : Nat) :
    ∃ name, Setting.text ⟨text.toUTF8, shift⟩ nameTree = .ok name :=
  text_succeeds (orderly nameTree
    (mem_preorder_of_mem_children (mem_children_of_fieldChild? hasName))) shift

theorem plan_succeeds {text : String} {tree : ConcreteTree}
    (orderly : ∀ inner ∈ tree.preorder, Orderly text inner) (shift : Nat) :
    Succeeds (plan ⟨text.toUTF8, shift⟩ tree) := by
  have here := orderly tree tree.mem_preorder_self
  by_cases isDeclaration : tree.kind = "method_declaration" ∨ tree.kind = "constructor_declaration"
  · rcases here.named (mem_methodKinds_of_declaration isDeclaration) with ⟨nameTree, hasName, _⟩
    rcases exists_name orderly hasName shift with ⟨name, isName⟩
    exact ⟨_, plan_of_plans (.declaration isDeclaration hasName isName)⟩
  by_cases isCall : tree.kind = "method_invocation"
  · rcases here.named (by simp [methodKinds, isCall]) with ⟨nameTree, hasName, _⟩
    rcases exists_name orderly hasName shift with ⟨name, isName⟩
    rcases here.arguments isCall with ⟨arguments, hasArguments, _⟩
    rcases hasObject : tree.fieldChild? "object" with _ | object
    · exact ⟨_, plan_of_plans (.call isCall hasName isName hasArguments hasObject)⟩
    · exact ⟨_, plan_of_plans (.callOn isCall hasName isName hasArguments hasObject)⟩
  by_cases areVariables : tree.kind = "local_variable_declaration"
  · exact ⟨_, plan_of_plans (.variableDeclaration areVariables)⟩
  by_cases isDeclarator : tree.kind = "variable_declarator"
  · rcases Option.isSome_iff_exists.mp (here.declarator isDeclarator) with ⟨nameTree, hasName⟩
    rcases exists_name orderly hasName shift with ⟨name, isName⟩
    exact ⟨_, plan_of_plans (.fragment isDeclarator hasName isName)⟩
  rcases isLiteral : LiteralKind.ofGrammarKind? tree.kind with _ | kind
  · refine ⟨_, plan_of_plans (.expression ?_ isLiteral)⟩
    simpa [dedicatedKinds, or_assoc] using
      not_or.mpr ⟨isDeclaration, not_or.mpr ⟨isCall, not_or.mpr ⟨areVariables, isDeclarator⟩⟩⟩
  · exact ⟨_, plan_of_plans (.literal isLiteral)⟩

theorem lowerTree_succeeds {text : String} {tree : ConcreteTree}
    (orderly : ∀ inner ∈ tree.preorder, Orderly text inner) (shift : Nat) :
    Succeeds (lowerTree ⟨text.toUTF8, shift⟩ tree) := by
  rcases plan_succeeds orderly shift with ⟨leaf | ⟨pending, children⟩, isPlan⟩
  · exact ⟨leaf, by rw [lowerTree_eq, isPlan]⟩
  · have areLowered : ∀ child ∈ children, Succeeds (lowerTree ⟨text.toUTF8, shift⟩ child) := by
      intro child isChild
      have below := forall_preorder_of_plans orderly (plans_of_plan isPlan) isChild
      exact lowerTree_succeeds below shift
    rw [lowerTree_branch isPlan, mapM_eq_ok areLowered]
    exact ⟨_, rfl⟩
termination_by sizeOf tree
decreasing_by exact sizeOf_lt_of_mem_planned isPlan isChild

theorem method?_isSome {text : String} {tree : ConcreteTree} {role : MethodRole}
    (orderly : ∀ inner ∈ tree.preorder, Orderly text inner) (isKind : tree.kind ∈ kindsOf role)
    (shift : Nat) : (Setting.method? ⟨text.toUTF8, shift⟩ role tree).isSome := by
  have here := orderly tree tree.mem_preorder_self
  rcases here.named (kindsOf_subset role isKind) with ⟨nameTree, hasName, _⟩
  rcases exists_name orderly hasName shift with ⟨name, isName⟩
  rw [method?_of_name isKind hasName isName]
  rfl

/-- No method is hidden just if all methods of a tree are shown. -/
theorem shownMethods_perm_iff {text : String} {tree : ConcreteTree}
    (orderly : ∀ inner ∈ tree.preorder, Orderly text inner) (shift : Nat) (role : MethodRole) :
    (Setting.shownMethods ⟨text.toUTF8, shift⟩ role tree).Perm
        (tree.preorder.filterMap (Setting.method? ⟨text.toUTF8, shift⟩ role)) ↔
      ∀ inner ∈ tree.hidden, inner.kind ∉ kindsOf role := by
  have split := tree.preorder_perm_shown_hidden.filterMap
    (Setting.method? ⟨text.toUTF8, shift⟩ role)
  rw [List.filterMap_append] at split
  have noneHidden : tree.hidden.filterMap (Setting.method? ⟨text.toUTF8, shift⟩ role) = [] ↔
      ∀ inner ∈ tree.hidden, inner.kind ∉ kindsOf role := by
    rw [List.filterMap_eq_nil_iff]
    refine forall₂_congr fun inner isHidden => ?_
    constructor
    · intro noMethod isKind
      have isInner : inner ∈ tree.preorder :=
        tree.preorder_perm_shown_hidden.mem_iff.mpr (List.mem_append_right _ isHidden)
      have isSome := method?_isSome (fun other isOther =>
        orderly other (mem_preorder_trans isInner isOther)) isKind shift
      rw [noMethod] at isSome
      cases isSome
    · exact fun notKind => if_neg notKind
  rw [← noneHidden]
  constructor
  · -- What is hidden would make the list of all methods longer than that of the shown ones.
    intro isAll
    have sameLength := (isAll.trans split).length_eq
    rw [Setting.shownMethods, List.length_append] at sameLength
    exact List.length_eq_zero_iff.mp (by omega)
  · intro isNone
    rw [isNone, List.append_nil] at split
    exact split.symm

/-- The methods of a tree stop in its text. -/
theorem stop_le_of_mem_shownMethods {text : String} {tree : ConcreteTree}
    (orderly : ∀ inner ∈ tree.preorder, Orderly text inner) {bytes : ByteArray} {role : MethodRole}
    {method : String × Span} (isShown : method ∈ Setting.shownMethods ⟨bytes, 0⟩ role tree) :
    method.2.stop ≤ text.utf8ByteSize := by
  rcases List.mem_filterMap.mp isShown with ⟨inner, isInner, isMethod⟩
  have isOrderly := orderly inner
    (tree.preorder_perm_shown_hidden.mem_iff.mpr (List.mem_append_left _ isInner))
  have isSpan : method.2 = Setting.span ⟨bytes, 0⟩ inner := by
    rw [Setting.method?] at isMethod
    split at isMethod
    · rcases Option.bind_eq_some_iff.mp isMethod with ⟨nameTree, _, isNamed⟩
      rcases Option.map_eq_some_iff.mp isNamed with ⟨name, _, rfl⟩
      rfl
    · cases isMethod
  rw [isSpan]
  exact (isPosition_stop_ofBounds isOrderly.start isOrderly.stop).le_rawEndPos

end Lowering

namespace SourceUnit

open Lowering ConcreteTree

/-- The methods that are drawn from a tree are those that are declared and called in it. -/
theorem filterMap_preorder_perm {α : Type} {fact? : Node → Option α} {role : MethodRole}
    {ofMethod : String × Span → α} {root : Node}
    (isFact : ∀ node, fact? node = (node.method? role).map ofMethod) :
    (root.preorder.filterMap fact?).Perm ((root.methodsIn role).map ofMethod) := by
  have sameFacts : root.preorder.filterMap fact? =
      (root.preorder.filterMap (Node.method? role)).map ofMethod := by
    rw [List.map_filterMap]
    exact List.filterMap_congr fun node _ => isFact node
  rw [sameFacts]
  exact ((Node.preorder_perm_subtrees root).filterMap _).map _

theorem calls_perm_methodsIn {unit : SourceUnit} {facts : Facts}
    (isExtracted : unit.extract = .ok facts) :
    (facts.calls.toList.map fun call => (call.name, call.startLine)).Perm
      ((unit.root.methodsIn .invocation).map fun method =>
        (method.1, unit.lineOf method.2.start)) := by
  rw [calls_of_extract isExtracted, List.map_filterMap]
  apply filterMap_preorder_perm
  intro node
  cases node <;> rfl

theorem declarations_perm_methodsIn {unit : SourceUnit} {facts : Facts}
    (isExtracted : unit.extract = .ok facts) :
    (facts.declarations.toList.map fun declaration =>
        (declaration.name, declaration.startLine, declaration.endLine)).Perm
      ((unit.root.methodsIn .declaration).map fun method =>
        (method.1, unit.lineOf method.2.start, unit.lineOf (unit.stopOf method.2))) := by
  rw [declarations_of_extract isExtracted, List.map_filterMap]
  apply filterMap_preorder_perm
  intro node
  cases node <;> rfl

/-- A source whose tree is without errors is parsed, and all methods that are shown are kept. -/
theorem exists_unit_of_orderly {concrete : String → ConcreteTree} {source : String}
    (noError : (concrete source).label.hasError = false)
    (isProgram : (concrete source).kind = "program")
    (orderly : ∀ tree ∈ (concrete source).preorder, Orderly source tree) :
    ∃ unit, parseWith concrete source = .ok unit ∧ unit.source = source ∧
      ∀ role, (unit.root.methodsIn role).Perm
        (Setting.shownMethods ⟨source.toUTF8, 0⟩ role (concrete source)) := by
  have ofParts : ∀ part ∈ (concrete source).parts, ∀ inner ∈ part.preorder,
      Orderly source inner := by
    intro part isPart inner isInner
    exact orderly inner (mem_preorder_trans
      (mem_preorder_of_mem_children (mem_children_of_mem_parts isPart)) isInner)
  obtain ⟨items, isLowered⟩ : Succeeds (lowerParts ⟨source.toUTF8, 0⟩ (concrete source)) := by
    rw [lowerParts, lowerAll_eq_mapM]
    exact ⟨_, mapM_eq_ok fun part isPart => lowerTree_succeeds (ofParts part isPart) 0⟩
  refine ⟨ofItems source items, ?_, rfl, ?_⟩
  · simp only [parseWith, Diagnosis.firstFault, noError, isLowered]
    rfl
  · intro role
    have ofRoot : (ofItems source items).root.methodsIn role =
        items.flatMap (Node.methodsIn role) := by
      rw [methodsIn_eq]
      cases role <;> rfl
    have ofTree : Setting.shownMethods ⟨source.toUTF8, 0⟩ role (concrete source) =
        (concrete source).parts.flatMap (Setting.shownMethods ⟨source.toUTF8, 0⟩ role) := by
      have ofChildren : ∀ child ∈ (concrete source).children, Orderly source child :=
        fun child isChild => orderly child (mem_preorder_of_mem_children isChild)
      exact shownMethods_of_level ofChildren (by simp [levelKinds, isProgram]) _ _
    rw [ofRoot, ofTree]
    apply flatMap_perm_of_forall₂
    apply forall₂_imp _ (lowerAll_eq_ok_iff.mp isLowered)
    intro part isPart node partLowers
    exact methodsIn_perm_of_lowers (ofParts part isPart) partLowers role

/--
Of a source whose tree is without errors, parsing keeps just the methods that are shown, each once.
So all methods of the tree are kept if none is hidden, and only then; and the methods that are drawn
from the source are those that are shown.
-/
theorem parseWith_keeps_shown_methods {concrete : String → ConcreteTree} {source : String}
    (noError : (concrete source).label.hasError = false)
    (isProgram : (concrete source).kind = "program")
    (orderly : ∀ tree ∈ (concrete source).preorder, Orderly source tree) :
    ∃ unit, parseWith concrete source = .ok unit ∧
      (∀ role,
        (unit.root.methodsIn role).Perm
            ((concrete source).shown.filterMap (Setting.method? ⟨source.toUTF8, 0⟩ role)) ∧
          ((concrete source).preorder.filterMap (Setting.method? ⟨source.toUTF8, 0⟩ role)).Perm
            (unit.root.methodsIn role ++
              (concrete source).hidden.filterMap (Setting.method? ⟨source.toUTF8, 0⟩ role)) ∧
          ((unit.root.methodsIn role).Perm
              ((concrete source).preorder.filterMap (Setting.method? ⟨source.toUTF8, 0⟩ role)) ↔
            ∀ tree ∈ (concrete source).hidden, tree.kind ∉ kindsOf role)) ∧
      ∀ facts, unit.extract = .ok facts →
        (facts.calls.toList.map fun call => (call.name, call.startLine)).Perm
            (((concrete source).shown.filterMap
              (Setting.method? ⟨source.toUTF8, 0⟩ .invocation)).map fun method =>
                (method.1, unit.lineOf method.2.start)) ∧
          (facts.declarations.toList.map fun declaration =>
              (declaration.name, declaration.startLine, declaration.endLine)).Perm
            (((concrete source).shown.filterMap
              (Setting.method? ⟨source.toUTF8, 0⟩ .declaration)).map fun method =>
                (method.1, unit.lineOf method.2.start, unit.lineOf method.2.stop)) := by
  rcases exists_unit_of_orderly noError isProgram orderly with ⟨unit, parsed, isSource, keeps⟩
  refine ⟨unit, parsed, ?_, ?_⟩
  · intro role
    refine ⟨keeps role, ?_, ?_⟩
    · refine (((concrete source).preorder_perm_shown_hidden).filterMap _).trans ?_
      rw [List.filterMap_append]
      exact (keeps role).symm.append_right _
    · rw [← shownMethods_perm_iff orderly 0 role]
      exact ⟨(keeps role).symm.trans, (keeps role).trans⟩
  · intro facts isExtracted
    refine ⟨(calls_perm_methodsIn isExtracted).trans ((keeps .invocation).map _), ?_⟩
    refine (declarations_perm_methodsIn isExtracted).trans (((keeps .declaration).map _).trans ?_)
    apply List.Perm.of_eq
    apply List.map_congr_left
    intro method isShown
    rw [stopOf_of_inside (isSource ▸ stop_le_of_mem_shownMethods orderly isShown)]

/-! ## A call in a string template -/

namespace TemplateCall

/-- A call whose argument is a string template with a call in it. -/
def source : String := "g(STR.\"\\\x7bf()\x7d\");"

/-- The call in the template. -/
def innerTree : ConcreteTree :=
  namedNode "method_invocation" none 9 12 [
    namedNode "identifier" (some "name") 9 10 [],
    namedNode "argument_list" (some "arguments") 10 12 [tokenNode "(" 10, tokenNode ")" 11]]

/-- The tree that the grammar makes of the source. -/
def tree : ConcreteTree :=
  namedNode "program" none 0 16 [
    namedNode "expression_statement" none 0 16 [
      namedNode "method_invocation" none 0 15 [
        namedNode "identifier" (some "name") 0 1 [],
        namedNode "argument_list" (some "arguments") 1 15 [
          tokenNode "(" 1,
          namedNode "template_expression" none 2 14 [
            namedNode "identifier" (some "template_processor") 2 5 [],
            tokenNode "." 5,
            namedNode "string_literal" (some "template_argument") 6 14 [
              tokenNode "\"" 6,
              namedNode "string_interpolation" none 7 13 [
                tokenNode "\\\x7b" 7, innerTree, tokenNode "\x7d" 12],
              tokenNode "\"" 13]],
          tokenNode ")" 14]],
      tokenNode ";" 15]]

theorem orderly_tree : ∀ inner ∈ tree.preorder, Orderly source inner := by decide

theorem shown_tree :
    tree.shown.filterMap (Setting.method? ⟨source.toUTF8, 0⟩ .invocation) = [("g", ⟨0, 15⟩)] := by
  decide

/-- The call in the template is lost. -/
theorem parseWith_templateCall :
    (∀ inner ∈ tree.preorder, Orderly source inner) ∧
      ∃ unit, parseWith (fun _ => tree) source = .ok unit ∧
        unit.root.methodsIn .invocation = [("g", ⟨0, 15⟩)] ∧
        tree.preorder.filterMap (Setting.method? ⟨source.toUTF8, 0⟩ .invocation) =
          [("g", ⟨0, 15⟩), ("f", ⟨9, 3⟩)] := by
  rcases @parseWith_keeps_shown_methods (fun _ => tree) source rfl rfl orderly_tree with
    ⟨unit, parsed, keeps, _⟩
  refine ⟨orderly_tree, unit, parsed, ?_, by decide⟩
  have isShown := (keeps .invocation).1
  rw [shown_tree] at isShown
  exact List.perm_singleton.mp isShown

end TemplateCall

end SourceUnit

end JavaFacts
