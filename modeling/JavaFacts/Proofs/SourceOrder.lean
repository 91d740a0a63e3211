import JavaFacts.Proofs.Lines
import JavaFacts.Proofs.Nesting

/-!
# Facts in the order of the source

Where spans are nested, the pre-order of a tree never goes back in the text: a node starts where its
parent does or later, and siblings come one after another. Since a later offset is in no earlier
line, the facts that are drawn from a well-placed tree come in the order of their lines. Calls that
start together, as in a chain of calls, come with the outermost first, since what is below a node
follows it in the pre-order.
-/

namespace JavaFacts

open Lowering ConcreteTree Extraction

/-! ## The pre-order of nested nodes -/

namespace Node

/-- Nodes that come one after another, with nested spans all the way down. -/
structure InSequence (nodes : List Node) : Prop where
  apart : nodes.Pairwise fun left right => left.span.stop ≤ right.span.start
  nested : ∀ node ∈ nodes, ∀ inner ∈ node.subtrees, inner.Nested

theorem InSequence.head_nested {node : Node} {rest : List Node}
    (sequence : InSequence (node :: rest)) : node.Nested :=
  sequence.nested node List.mem_cons_self node node.mem_subtrees_self

/-- A node of a sequence can be replaced by its children. -/
theorem InSequence.descend {node : Node} {rest : List Node} (sequence : InSequence (node :: rest)) :
    InSequence (node.children ++ rest) := by
  rcases List.pairwise_cons.mp sequence.apart with ⟨beforeRest, restApart⟩
  have nested := sequence.head_nested
  rw [children_eq_of_nested nested]
  constructor
  · refine List.pairwise_append.mpr ⟨nested.apart, restApart, ?_⟩
    intro child isChild later isLater
    exact Nat.le_trans (nested.within child isChild).2 (beforeRest later isLater)
  · intro other isOther inner isInner
    rcases List.mem_append.mp isOther with isChild | isLater
    · exact sequence.nested node (by simp) inner
        (mem_subtrees_of_mem_declaredChildren isChild isInner)
    · exact sequence.nested other (by simp [isLater]) inner isInner

/-- What starts no later than the nodes of a sequence starts no later than what is below them. -/
theorem sorted_preorderAll {nodes : List Node} (sequence : InSequence nodes) {bound : Nat}
    (isBound : ∀ node ∈ nodes, bound ≤ node.start) :
    (∀ inner ∈ preorderAll nodes, bound ≤ inner.start) ∧
      (preorderAll nodes).Pairwise fun left right => left.start ≤ right.start := by
  induction nodes using stack_induction generalizing bound with
  | nil => simp
  | cons node rest ih _ =>
      have isFirst : ∀ other ∈ node.children ++ rest, node.start ≤ other.start := by
        intro other isOther
        rcases List.mem_append.mp isOther with isChild | isLater
        · rw [children_eq_of_nested sequence.head_nested] at isChild
          exact (sequence.head_nested.within other isChild).1
        · have beforeRest := (List.pairwise_cons.mp sequence.apart).1 other isLater
          exact Nat.le_trans node.start_le_stop beforeRest
      rcases ih sequence.descend isFirst with ⟨areLater, sorted⟩
      rw [preorderAll_cons]
      refine ⟨?_, List.pairwise_cons.mpr ⟨areLater, sorted⟩⟩
      have startsLater := isBound node (by simp)
      intro inner isInner
      rcases List.mem_cons.mp isInner with rfl | isBelow
      · exact startsLater
      · exact Nat.le_trans startsLater (areLater inner isBelow)

/-- What is below a child follows the node without a gap. -/
theorem preorder_infix_of_follows {root node child : Node} {before after : List Node}
    (split : root.preorder = before ++ node :: after) (isChild : child ∈ node.declaredChildren) :
    child.preorder <:+: after := by
  rw [← preorderAll_singleton] at split
  rcases List.append_of_mem (node.children_perm.mem_iff.mpr isChild) with ⟨left, right, isSplit⟩
  have isInfix : child.preorder <:+: preorderAll node.children := by
    rw [isSplit, preorderAll_append]
    exact ⟨preorderAll left, preorderAll right, by simp [preorderAll]⟩
  exact isInfix.trans (preorderAll_children_follows split).isInfix

end Node

/-! ## Lines of facts -/

namespace SourceUnit

theorem sorted_ofItems {source : String} {items : List Node} (sequence : Node.InSequence items) :
    (ofItems source items).root.preorder.Pairwise fun left right => left.start ≤ right.start := by
  have areChildren : (ofItems source items).root.children = items :=
    Node.mergeSort_eq_of_apart sequence.apart
  rw [Node.preorder_eq, areChildren]
  rcases Node.sorted_preorderAll sequence (fun node _ => Nat.zero_le node.start) with
    ⟨areLater, sorted⟩
  exact List.pairwise_cons.mpr ⟨areLater, sorted⟩

theorem startLine_call? {unit : SourceUnit} {node : Node} {call : Call}
    (isCall : call? unit node = some call) : call.startLine = unit.lineOf node.start := by
  cases node with
  | methodInvocation span name receiver arguments =>
      cases isCall
      rfl
  | _ => cases isCall

theorem startLine_declaration? {unit : SourceUnit} {node : Node} {declaration : Declaration}
    (isDeclaration : declaration? unit node = some declaration) :
    declaration.startLine = unit.lineOf node.start := by
  cases node with
  | methodDeclaration span name header body =>
      cases isDeclaration
      rfl
  | _ => cases isDeclaration

/-- What is drawn from sorted nodes, each with the line where it starts, is sorted by lines. -/
theorem sorted_lines {α : Type} {source : String} {root : Node} {nodes : List Node}
    (sorted : nodes.Pairwise fun left right => left.start ≤ right.start)
    {fact? : Node → Option α} {line : α → Nat}
    (isLine : ∀ node fact, fact? node = some fact →
      line fact = (ofTree source root).lineOf node.start) :
    ((nodes.filterMap fact?).map line).Pairwise (· ≤ ·) := by
  rw [List.pairwise_map]
  apply sorted.filterMap
  intro left right ordered leftFact isLeft rightFact isRight
  rw [isLine left leftFact isLeft, isLine right rightFact isRight]
  exact LineTable.lineOf_mono source ordered

/--
The facts that are drawn from a well-placed tree come in the order of the source: neither the lines
of calls nor those of declarations ever go back, and what is called in the receiver or in an
argument of a call comes after this call.
-/
theorem extract_in_source_order {setting : Setting} {source : String} {tree : ConcreteTree}
    {items : List Node} {facts : Facts} (wellPlaced : ∀ inner ∈ tree.preorder, WellPlaced inner)
    (isLowered : lowerParts setting tree = .ok items)
    (isExtracted : (ofItems source items).extract = .ok facts) :
    (facts.calls.toList.map Call.startLine).Pairwise (· ≤ ·) ∧
      (facts.declarations.toList.map Declaration.startLine).Pairwise (· ≤ ·) ∧
      ∀ before span name receiver arguments after,
        (ofItems source items).root.preorder =
            before ++ .methodInvocation span name receiver arguments :: after →
          ∃ call earlier later, facts.calls.toList = earlier ++ call :: later ∧
            call? (ofItems source items) (.methodInvocation span name receiver arguments) =
              some call ∧
            earlier = before.filterMap (call? (ofItems source items)) ∧
            ∀ part ∈ receiver.toList ++ arguments,
              part.preorder.filterMap (call? (ofItems source items)) <:+: later := by
  have sorted : (ofItems source items).root.preorder.Pairwise
      fun left right => left.start ≤ right.start := by
    apply sorted_ofItems
    exact ⟨(holds_lowerParts wellPlaced isLowered).apart, nested_of_lowerParts wellPlaced isLowered⟩
  rw [calls_of_extract isExtracted, declarations_of_extract isExtracted]
  refine ⟨sorted_lines sorted fun _ _ => startLine_call?,
    sorted_lines sorted fun _ _ => startLine_declaration?, ?_⟩
  intro before span name receiver arguments after split
  refine ⟨_, _, after.filterMap (call? (ofItems source items)), ?_, rfl, rfl, ?_⟩
  · rw [split, List.filterMap_append, List.filterMap_cons]
    rfl
  · intro part isPart
    exact (Node.preorder_infix_of_follows split isPart).filterMap _

/-! ## A chain of calls -/

namespace CallChain

/-- Two calls that start together, with two more in the arguments of the inner one. -/
def source : String := "x.f(g(),\nh()).k();"

/-- The tree that the grammar makes of a call without arguments. -/
def plainCall (start : Nat) : ConcreteTree :=
  namedNode "method_invocation" none start (start + 3) [
    namedNode "identifier" (some "name") start (start + 1) [],
    namedNode "argument_list" (some "arguments") (start + 1) (start + 3) [
      tokenNode "(" (start + 1), tokenNode ")" (start + 2)]]

/-- The tree that the grammar makes of the source. -/
def tree : ConcreteTree :=
  namedNode "program" none 0 18 [
    namedNode "expression_statement" none 0 18 [
      namedNode "method_invocation" none 0 17 [
        namedNode "method_invocation" (some "object") 0 13 [
          namedNode "identifier" (some "object") 0 1 [],
          tokenNode "." 1,
          namedNode "identifier" (some "name") 2 3 [],
          namedNode "argument_list" (some "arguments") 3 13 [
            tokenNode "(" 3, plainCall 4, tokenNode "," 7, plainCall 9, tokenNode ")" 12]],
        tokenNode "." 13,
        namedNode "identifier" (some "name") 14 15 [],
        namedNode "argument_list" (some "arguments") 15 17 [tokenNode "(" 15, tokenNode ")" 16]],
      tokenNode ";" 17]]

/-- The inner call of the chain. -/
def innerCall : Node :=
  .methodInvocation ⟨0, 13⟩ "f" (some (.expression ⟨0, 1⟩ "identifier" []))
    [.methodInvocation ⟨4, 3⟩ "g" none [], .methodInvocation ⟨9, 3⟩ "h" none []]

/-- The outer call of the chain. -/
def outerCall : Node := .methodInvocation ⟨0, 17⟩ "k" (some innerCall) []

/-- The statement that the chain makes up. -/
def statement : Node := .expression ⟨0, 18⟩ "expression_statement" [outerCall]

/-- The unit of the source. -/
def unit : SourceUnit := ofItems source [statement]

theorem lowerParts_tree : lowerParts ⟨source.toUTF8, 0⟩ tree = .ok [statement] := by
  refine lowerAll_eq_ok_iff.mpr (.cons (.expression (by decide) rfl (.cons ?_ .nil)) .nil)
  refine .callOn rfl rfl (by decide) rfl rfl rfl ?_ .nil
  refine .callOn rfl rfl (by decide) rfl rfl rfl (.expression (by decide) rfl .nil) ?_
  exact .cons (.call rfl rfl (by decide) rfl rfl .nil)
    (.cons (.call rfl rfl (by decide) rfl rfl .nil) .nil)

theorem wellPlaced_tree : ∀ inner ∈ tree.preorder, WellPlaced inner := by decide

theorem preorder_root :
    unit.root.preorder =
      [unit.root, statement, outerCall, innerCall, .expression ⟨0, 1⟩ "identifier" [],
        .methodInvocation ⟨4, 3⟩ "g" none [], .methodInvocation ⟨9, 3⟩ "h" none []] := by
  have rootChildren : unit.root.children = [statement] := Node.mergeSort_eq_of_apart (by decide)
  have ofStatement : statement.children = [outerCall] := Node.mergeSort_eq_of_apart (by decide)
  have ofOuter : outerCall.children = [innerCall] := Node.mergeSort_eq_of_apart (by decide)
  have ofInner : innerCall.children = innerCall.declaredChildren :=
    Node.mergeSort_eq_of_apart (by decide)
  have belowInner : Node.preorderAll innerCall.declaredChildren =
      [.expression ⟨0, 1⟩ "identifier" [], .methodInvocation ⟨4, 3⟩ "g" none [],
        .methodInvocation ⟨9, 3⟩ "h" none []] := by
    simp [innerCall, Node.preorderAll, Node.preorder_eq, Node.children, Node.declaredChildren]
  rw [Node.preorder_eq, rootChildren, Node.preorderAll_cons, ofStatement, List.append_nil,
    Node.preorderAll_cons, ofOuter, List.append_nil, Node.preorderAll_cons, List.append_nil,
    ofInner, belowInner]

theorem sound_root : ∀ node ∈ unit.root.preorder, Sound unit node := by
  have plain : ∀ name ∈ ["k", "f", "g", "h"], Name.isPlain name := by decide +kernel
  have readable : ∀ node ∈ innerCall :: innerCall.declaredChildren, Readable unit node := by
    have positions : ∀ node ∈ innerCall :: innerCall.declaredChildren,
        IsPosition source node.span.start ∧ IsPosition source node.span.stop := by decide
    intro node isNode
    exact readable_of_isPosition (positions node isNode).1 (positions node isNode).2
  rw [preorder_root]
  simp only [List.forall_mem_cons]
  refine ⟨trivial, trivial, ?_, ?_, trivial, ?_, ?_, by simp⟩
  · refine ⟨plain "k" (by simp), by simp, ?_⟩
    intro object isObject
    cases isObject
    exact readable innerCall (by simp)
  · refine ⟨plain "f" (by simp), ?_, ?_⟩
    · intro argument isArgument
      exact readable argument (by simp [innerCall, Node.declaredChildren, isArgument])
    · intro object isObject
      cases isObject
      exact readable _ (by simp [innerCall, Node.declaredChildren])
  · exact ⟨plain "g" (by simp), by simp, by simp⟩
  · exact ⟨plain "h" (by simp), by simp, by simp⟩

/-- The calls of the chain come outermost first, and then in the order of the lines. -/
theorem extract_callChain_in_order :
    (∀ inner ∈ tree.preorder, WellPlaced inner) ∧
      lowerParts ⟨source.toUTF8, 0⟩ tree = .ok [statement] ∧
      ∃ facts, (ofItems source [statement]).extract = .ok facts ∧
        facts.calls.toList.map (fun call => (call.name, call.startLine)) =
          [("k", 1), ("f", 1), ("g", 1), ("h", 2)] ∧
        (facts.calls.toList.map Call.startLine).Pairwise (· ≤ ·) ∧
        ∃ call earlier later, facts.calls.toList = earlier ++ call :: later ∧ call.name = "f" ∧
          ∀ part ∈ innerCall.declaredChildren, part.preorder.filterMap (call? unit) <:+: later := by
  obtain ⟨facts, isExtracted⟩ : ∃ facts, unit.extract = .ok facts :=
    ⟨_, extract_of_allSound sound_root⟩
  rcases extract_in_source_order wellPlaced_tree lowerParts_tree isExtracted with
    ⟨sortedCalls, _, follows⟩
  refine ⟨wellPlaced_tree, lowerParts_tree, _, isExtracted, ?_, sortedCalls, ?_⟩
  · have outerLine : unit.lineOf 0 = 1 := by decide +kernel
    have firstLine : unit.lineOf 4 = 1 := by decide +kernel
    have secondLine : unit.lineOf 9 = 2 := by decide +kernel
    rw [calls_of_extract isExtracted, preorder_root]
    change [("k", unit.lineOf 0), ("f", unit.lineOf 0), ("g", unit.lineOf 4),
      ("h", unit.lineOf 9)] = _
    rw [outerLine, firstLine, secondLine]
  · rcases follows [unit.root, statement, outerCall] _ _ _ _ _ preorder_root with
      ⟨call, earlier, later, split, isCall, _, areLater⟩
    refine ⟨call, earlier, later, split, ?_, areLater⟩
    cases isCall
    rfl

end CallChain

end SourceUnit

end JavaFacts
