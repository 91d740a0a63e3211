import JavaFacts.Proofs.ReceiverGroups

/-!
# Counting the nodes of a tree

Nodes that satisfy a condition are counted by a loop with a stack of its own. It takes the children
of a node from the last to the first, and a walk takes them from the first to the last, so that the
two stacks differ after the first node with several children. What is on and below them is the same
up to its order, and a count does not depend on the order. Hence the loop counts just the nodes that
are offered by a walk that neither skips nor stops.

Extraction that succeeds is such a walk. It leaves one declaration for every node that declares a
method, one call for every invocation, and one name for every invocation with a receiver.
-/

namespace JavaFacts

/-! ## Two loops over a stack -/

namespace Node

variable (condition : Node → Bool)

/-- The same nodes on a stack, in whatever order, stand for the same nodes below them. -/
theorem preorderAll_perm {left right : List Node} (same : left.Perm right) :
    (preorderAll left).Perm (preorderAll right) :=
  same.flatMap_right preorder

/--
One step of either loop: the node that is taken counts for itself, and its children take its place,
in whatever order.
-/
theorem count_step (count : Nat) (node : Node) {below : List Node}
    (same : below.Perm node.children) (stack : List Node) :
    (if condition node then count + 1 else count) +
        (preorderAll (below ++ stack)).countP condition =
      count + (preorderAll (node :: stack)).countP condition := by
  have onStack : (below ++ stack).Perm (node.children ++ stack) := same.append_right stack
  rw [preorderAll_cons, List.countP_cons, (preorderAll_perm onStack).countP_eq]
  by_cases holds : condition node
  · simp only [holds, ↓reduceIte]
    omega
  · simp [holds]

theorem countFrom_eq_countP (count : Nat) (stack : List Node) :
    countFrom condition count stack = count + (preorderAll stack).countP condition := by
  fun_induction countFrom condition count stack with
  | case1 count => simp
  | case2 count node stack ih =>
      -- The next node is the last child, which a walk takes last; the step leaves the order open.
      have reversed : node.children.reverse.Perm node.children := List.reverse_perm _
      rw [dite_eq_ite] at ih
      rw [ih, count_step condition count node reversed stack]

theorem countWhere_eq_countP (root : Node) :
    root.countWhere condition = root.preorder.countP condition := by
  rw [countWhere, countFrom_eq_countP, preorderAll_singleton, Nat.zero_add]

end Node

namespace Visitor

variable {σ ε : Type}

/-- The visitor that counts the nodes that satisfy a condition, and always descends. -/
def counter (ε : Type) (condition : Node → Bool) : Visitor Nat ε where
  visit node count := (if condition node then count + 1 else count, .descend)

theorem walkAll_counter (condition : Node → Bool) (count : Nat) (stack : List Node) :
    (counter ε condition).walkAll count stack =
      ⟨count + (Node.preorderAll stack).countP condition, .ok ()⟩ := by
  induction stack using Node.stack_induction generalizing count with
  | nil => simp [walkAll_nil]
  | cons node rest ih _ =>
      rw [walkAll_descend rfl, ih, Node.count_step condition count node (List.Perm.refl _) rest]

/-- A walk that descends wherever it gets to has offered the nodes that are counted. -/
theorem countWhere_eq_countP_offers {visitor : Visitor σ ε} {root : Node} {state : σ}
    (descends : ∀ offer ∈ visitor.offers root state, offer.answer = .descend)
    (condition : Node → Bool) :
    root.countWhere condition =
      ((visitor.offers root state).map Offer.node).countP condition := by
  have allOffered := ((visitor.isRun_offers root state).offers_all descends).2
  rw [Node.countWhere_eq_countP, allOffered]

theorem exists_visit_of_leads {visitor : Visitor σ ε} {offers : List (Offer ε)} {start final : σ}
    (leads : visitor.Leads start offers final) :
    ∀ offer ∈ offers, ∃ state, (visitor.visit offer.node state).2 = offer.answer := by
  induction offers generalizing start with
  | nil => simp
  | cons first later ih =>
      rcases leads with ⟨next, answer, leadsOn⟩
      intro offer offerMem
      rcases List.mem_cons.mp offerMem with rfl | isLater
      · exact ⟨start, by rw [answer]⟩
      · exact ih leadsOn offer isLater

/-- If no node of a tree can be answered otherwise, all offers are answered by descending. -/
theorem offers_descend {visitor : Visitor σ ε} {root : Node}
    (descends : ∀ node ∈ root.preorder, ∀ state, (visitor.visit node state).2 = .descend)
    (state : σ) : ∀ offer ∈ visitor.offers root state, offer.answer = .descend := by
  have run := visitor.isRun_offers root state
  intro offer offerMem
  rcases exists_visit_of_leads run.leads offer offerMem with ⟨before, answer⟩
  have isNode : offer.node ∈ root.preorder :=
    run.nodes_sublist.subset (List.mem_map_of_mem offerMem)
  rw [← answer]
  exact descends offer.node isNode before

end Visitor

/-! ## What extraction leaves -/

namespace Node

def isMethodDeclaration : Node → Bool
  | methodDeclaration _ _ _ _ => true
  | _ => false

def isMethodInvocation : Node → Bool
  | methodInvocation _ _ _ _ => true
  | _ => false

/-- Whether a node is an invocation with a receiver. -/
def isQualifiedInvocation : Node → Bool
  | methodInvocation _ _ (some _) _ => true
  | _ => false

/-- What is drawn from the nodes of a tree is as much as there are nodes from which it is drawn. -/
theorem length_filterMap_preorder {α : Type} {drawn : Node → Option α} {condition : Node → Bool}
    {root : Node} (same : ∀ node ∈ root.preorder, (drawn node).isSome = condition node) :
    (root.preorder.filterMap drawn).length = root.countWhere condition := by
  rw [countWhere_eq_countP, List.length_filterMap_eq_countP]
  apply List.countP_congr
  intro node nodeMem
  rw [same node nodeMem]

end Node

theorem ReceiverCalls.length_names (calls : ReceiverCalls) :
    calls.names.length = (calls.entries.toList.map fun entry => entry.2.size).sum := by
  simp [names, List.length_flatMap]

namespace Extraction

variable {unit : SourceUnit}

theorem isSome_declaration? (node : Node) :
    (declaration? unit node).isSome = node.isMethodDeclaration := by
  cases node <;> rfl

theorem isSome_call? (node : Node) : (call? unit node).isSome = node.isMethodInvocation := by
  cases node <;> rfl

/-- A receiver is left out if its text cannot be read, so that here the node has to be sound. -/
theorem isSome_qualifiedCall? {node : Node} (sound : Sound unit node) :
    (qualifiedCall? unit node).isSome = node.isQualifiedInvocation := by
  cases node with
  | methodInvocation span name receiver arguments =>
      cases receiver with
      | none => rfl
      | some object =>
          rcases sound.2.2 object rfl with ⟨text, isText⟩
          simp [qualifiedCall?, Node.isQualifiedInvocation, isText]
  | _ => rfl

theorem offers_extractor_descend {root : Node} (sound : ∀ node ∈ root.preorder, Sound unit node)
    (facts : Facts) : ∀ offer ∈ (extractor unit).offers root facts, offer.answer = .descend := by
  apply Visitor.offers_descend
  intro node nodeMem state
  rw [visit_of_sound (sound node nodeMem)]

end Extraction

namespace SourceUnit

open Extraction

theorem length_names_of_extract {unit : SourceUnit} {facts : Facts}
    (isOk : unit.extract = .ok facts) :
    facts.receivers.names.length = unit.root.countWhere Node.isQualifiedInvocation := by
  rcases extract_eq_ok_iff.mp isOk with ⟨sound, rfl⟩
  have qualified := Node.length_filterMap_preorder fun node nodeMem =>
    isSome_qualifiedCall? (sound node nodeMem)
  exact (ReceiverCalls.length_names_ofCalls _).trans qualified

end SourceUnit

namespace Node

open Extraction SourceUnit

/--
The loop that counts the nodes of a tree, the last child first, counts just the nodes that a walk
offers if it neither skips nor stops, whatever the visitor, and as much as a visitor that counts the
nodes itself. If extraction succeeds, its walk is of this kind. Then there are as many declarations
as nodes that declare a method, as many calls as invocations, and as many names in the lists of all
receivers as invocations with a receiver.
-/
theorem countWhere_counts_offered :
    (∀ (root : Node) (condition : Node → Bool),
      (∀ (σ ε : Type) (visitor : Visitor σ ε) (state : σ),
        (∀ offer ∈ visitor.offers root state, offer.answer = .descend) →
          root.countWhere condition =
            ((visitor.offers root state).map Offer.node).countP condition) ∧
        ∀ ε : Type, (Visitor.counter ε condition).walk root 0 =
          ⟨root.countWhere condition, .ok ()⟩) ∧
      ∀ (unit : SourceUnit) (facts : Facts), unit.extract = .ok facts →
        (∀ offer ∈ (extractor unit).offers unit.root .empty, offer.answer = .descend) ∧
          facts.declarations.size = unit.root.countWhere isMethodDeclaration ∧
          facts.calls.size = unit.root.countWhere isMethodInvocation ∧
          (facts.receivers.entries.toList.map fun entry => entry.2.size).sum =
            unit.root.countWhere isQualifiedInvocation := by
  refine ⟨?_, ?_⟩
  · intro root condition
    refine ⟨?_, ?_⟩
    · intro σ ε visitor state descends
      exact Visitor.countWhere_eq_countP_offers descends condition
    · intro ε
      rw [Visitor.walk, Visitor.walkAll_counter, preorderAll_singleton, countWhere_eq_countP,
        Nat.zero_add]
  · intro unit facts isOk
    have sound := (extract_eq_ok_iff.mp isOk).1
    refine ⟨offers_extractor_descend sound .empty, ?_, ?_, ?_⟩
    · rw [← Array.length_toList, declarations_of_extract isOk]
      exact length_filterMap_preorder fun node _ => isSome_declaration? node
    · rw [← Array.length_toList, calls_of_extract isOk]
      exact length_filterMap_preorder fun node _ => isSome_call? node
    · rw [← ReceiverCalls.length_names]
      exact length_names_of_extract isOk

/-! ## Calls in a method -/

namespace CallsInMethod

def source : String := "void m() { x.f(g(1)); h(); }"

def object : Node := .expression ⟨11, 1⟩ "identifier" []

def one : Node := .literal ⟨17, 1⟩ .integer

def inner : Node := .methodInvocation ⟨15, 4⟩ "g" none [one]

def outer : Node := .methodInvocation ⟨11, 9⟩ "f" (some object) [inner]

def last : Node := .methodInvocation ⟨22, 3⟩ "h" none []

def method : Node := .methodDeclaration ⟨0, 28⟩ "m" [] (some [outer, last])

def root : Node := .compilationUnit ⟨0, 28⟩ [method]

def unit : SourceUnit := .ofTree source root

theorem preorder_root : root.preorder = [root, method, outer, object, inner, one, last] := by
  have ofRoot : root.children = [method] := mergeSort_eq_of_sorted (by decide)
  have ofMethod : method.children = [outer, last] := mergeSort_eq_of_sorted (by decide)
  have ofOuter : outer.children = [object, inner] := mergeSort_eq_of_sorted (by decide)
  have ofInner : inner.children = [one] := mergeSort_eq_of_sorted (by decide)
  have ofObject : object.children = [] := mergeSort_eq_of_sorted .nil
  have ofOne : one.children = [] := mergeSort_eq_of_sorted .nil
  have ofLast : last.children = [] := mergeSort_eq_of_sorted .nil
  simp [preorder_eq, preorderAll, ofRoot, ofMethod, ofOuter, ofInner, ofObject, ofOne, ofLast]

theorem countWhere_root (condition : Node → Bool) :
    root.countWhere condition =
      [root, method, outer, object, inner, one, last].countP condition := by
  rw [countWhere_eq_countP, preorder_root]

theorem sound_root : ∀ node ∈ unit.root.preorder, Sound unit node := by
  change ∀ node ∈ root.preorder, Sound unit node
  rw [preorder_root]
  decide +kernel

/-- A method with three calls, one of them with a receiver. -/
theorem countWhere_callsInMethod :
    ∃ facts, unit.extract = .ok facts ∧ facts.declarations.size = 1 ∧ facts.calls.size = 3 ∧
      (facts.receivers.entries.toList.map fun entry => entry.2.size).sum = 1 ∧
      (∀ offer ∈ (extractor unit).offers root .empty, offer.answer = .descend) ∧
      (((extractor unit).offers root .empty).map Offer.node).countP isMethodInvocation = 3 ∧
      (Visitor.counter TreeDefect isMethodInvocation).walk root 0 = ⟨3, .ok ()⟩ := by
  have isOk := extract_of_allSound sound_root
  rcases countWhere_counts_offered with ⟨ofWalks, ofExtraction⟩
  rcases ofExtraction unit _ isOk with ⟨descends, declarations, calls, names⟩
  have isThree : root.countWhere isMethodInvocation = 3 := countWhere_root _
  refine ⟨_, isOk, declarations.trans (countWhere_root _), calls.trans isThree,
    names.trans (countWhere_root _), descends, ?_, ?_⟩
  · rw [← isThree]
    exact ((ofWalks root isMethodInvocation).1 _ _ _ _ descends).symm
  · rw [← isThree]
    exact (ofWalks root isMethodInvocation).2 TreeDefect

end CallsInMethod

end Node

end JavaFacts
