import Mathlib.Data.List.Basic
import JavaFacts.Syntax.Node

/-!
# Trees that are compared as equal

Trees are compared with a list of pairs that are still to be looked at. A pair is compared by its
spans and its shape, and then replaced by the pairs of declared children. This forgets which part of
its parent a child is, and pairs children only as far as both lists go. But nodes of the same shape
have parts of the same lengths, so that nothing is left over and every child is compared with the
child in the same part: two trees are compared as equal just if they are the same.
-/

namespace JavaFacts

namespace Node

/-! ## The shape of a node -/

/-- Nodes of one kind with the same texts, whose parts are there alike and have equal lengths. -/
inductive SameParts : Node → Node → Prop
  | compilationUnit {span other : Span} {items others : List Node}
      (length : items.length = others.length) :
      SameParts (.compilationUnit span items) (.compilationUnit other others)
  | bodiless {span other : Span} {name : String} {header otherHeader : List Node}
      (headerLength : header.length = otherHeader.length) :
      SameParts (.methodDeclaration span name header none)
        (.methodDeclaration other name otherHeader none)
  | declaration {span other : Span} {name : String}
      {header otherHeader statements otherStatements : List Node}
      (headerLength : header.length = otherHeader.length)
      (length : statements.length = otherStatements.length) :
      SameParts (.methodDeclaration span name header (some statements))
        (.methodDeclaration other name otherHeader (some otherStatements))
  | call {span other : Span} {name : String} {arguments others : List Node}
      (length : arguments.length = others.length) :
      SameParts (.methodInvocation span name none arguments)
        (.methodInvocation other name none others)
  | callOn {span other : Span} {name : String} {receiver otherReceiver : Node}
      {arguments others : List Node} (length : arguments.length = others.length) :
      SameParts (.methodInvocation span name (some receiver) arguments)
        (.methodInvocation other name (some otherReceiver) others)
  | variableDeclaration {span other : Span} {fragments others : List Node}
      (length : fragments.length = others.length) :
      SameParts (.variableDeclaration span fragments) (.variableDeclaration other others)
  | fragment {span other : Span} {name : String} :
      SameParts (.variableFragment span name none) (.variableFragment other name none)
  | initialized {span other : Span} {name : String} {initializer otherInitializer : Node} :
      SameParts (.variableFragment span name (some initializer))
        (.variableFragment other name (some otherInitializer))
  | expression {span other : Span} {kind : String} {children others : List Node}
      (length : children.length = others.length) :
      SameParts (.expression span kind children) (.expression other kind others)
  | literal {span other : Span} {kind : LiteralKind} :
      SameParts (.literal span kind) (.literal other kind)

theorem sameParts_of_sameShape {left right : Node} (same : left.sameShape right) :
    SameParts left right := by
  rw [sameShape.eq_def] at same
  split at same
  · exact .compilationUnit (by simpa using same)
  · next header body _ _ otherHeader otherBody =>
    simp only [Bool.and_eq_true, beq_iff_eq] at same
    rcases same with ⟨⟨rfl, headerLength⟩, bodyLength⟩
    cases body <;> cases otherBody
    · exact .bodiless headerLength
    · cases bodyLength
    · cases bodyLength
    · exact .declaration headerLength (Option.some.inj bodyLength)
  · next receiver arguments _ _ otherReceiver others =>
    simp only [Bool.and_eq_true, beq_iff_eq] at same
    rcases same with ⟨⟨rfl, isThere⟩, length⟩
    cases receiver <;> cases otherReceiver
    · exact .call length
    · cases isThere
    · cases isThere
    · exact .callOn length
  · exact .variableDeclaration (by simpa using same)
  · next initializer _ _ otherInitializer =>
    simp only [Bool.and_eq_true, beq_iff_eq] at same
    rcases same with ⟨rfl, isThere⟩
    cases initializer <;> cases otherInitializer
    · exact .fragment
    · cases isThere
    · cases isThere
    · exact .initialized
  · simp only [Bool.and_eq_true, beq_iff_eq] at same
    rcases same with ⟨rfl, length⟩
    exact .expression length
  · simp only [beq_iff_eq] at same
    subst same
    exact .literal
  · cases same

theorem sameShape_self (node : Node) : node.sameShape node := by
  cases node <;> simp [sameShape]

/-- Nodes with the same parts have as many children. -/
theorem SameParts.length_declaredChildren {left right : Node} (same : SameParts left right) :
    left.declaredChildren.length = right.declaredChildren.length := by
  cases same <;> simp_all [declaredChildren]

/-- The children of nodes with the same parts determine the parts. -/
theorem SameParts.eq_of_children {left right : Node} (same : SameParts left right)
    (sameSpan : left.span = right.span)
    (sameChildren : left.declaredChildren = right.declaredChildren) : left = right := by
  cases same with
  | bodiless headerLength => simp_all [declaredChildren, Node.span]
  | declaration headerLength length =>
      rcases List.append_inj sameChildren headerLength with ⟨rfl, areStatements⟩
      simp_all [Node.span]
  | callOn length =>
      rcases List.cons.inj sameChildren with ⟨rfl, rfl⟩
      simp_all [Node.span]
  | _ => simp_all [declaredChildren, Node.span]

/-! ## Comparing trees -/

theorem forall_mem_zip_iff {left right : List Node} (sameLength : left.length = right.length) :
    (∀ pair ∈ left.zip right, pair.1 = pair.2) ↔ left = right := by
  induction left generalizing right with
  | nil => simpa [eq_comm] using sameLength
  | cons first rest ih =>
      cases right with
      | nil => cases sameLength
      | cons other others =>
          rw [List.zip_cons_cons, List.forall_mem_cons, ih (Nat.succ.inj sameLength),
            List.cons.injEq]

/-- Two nodes are the same just if a step of the comparison finds no difference, now or later. -/
theorem eq_iff_step {left right : Node} :
    left = right ↔ (left.span = right.span ∧ left.sameShape right) ∧
      ∀ pair ∈ left.declaredChildren.zip right.declaredChildren, pair.1 = pair.2 := by
  constructor
  · rintro rfl
    exact ⟨⟨rfl, left.sameShape_self⟩, (forall_mem_zip_iff rfl).mpr rfl⟩
  · rintro ⟨⟨sameSpan, sameShape⟩, samePairs⟩
    have same := sameParts_of_sameShape sameShape
    exact same.eq_of_children sameSpan
      ((forall_mem_zip_iff same.length_declaredChildren).mp samePairs)

/-- The comparison finds out whether all pairs are pairs of the same nodes. -/
theorem allEqual_iff (pending : List (Node × Node)) :
    allEqual pending ↔ ∀ pair ∈ pending, pair.1 = pair.2 := by
  fun_induction allEqual pending with
  | case1 => simp
  | case2 left right pending noDifference ih =>
      rw [ih, List.forall_mem_append, List.forall_mem_cons, eq_iff_step]
      simp only [Bool.and_eq_true, decide_eq_true_eq] at noDifference
      simp only [noDifference, true_and, List.mem_reverse, and_self]
  | case3 left right pending difference =>
      simp only [Bool.and_eq_true, decide_eq_true_eq] at difference
      rw [List.forall_mem_cons, eq_iff_step]
      simp only [difference, false_and, Bool.false_eq_true]

instance : LawfulBEq Node where
  eq_of_beq {left right} isEqual := (allEqual_iff [(left, right)]).mp isEqual _ List.mem_cons_self
  rfl {node} := (allEqual_iff [(node, node)]).mpr (by simp)

/--
The comparison of trees decides whether they are the same in all their nodes, texts and parts, so it
is an equivalence. It tells apart a body that is missing and an empty one, a node in the header and
at the beginning of the body, and a receiver and a first argument.
-/
theorem beq_iff_same :
    (∀ left right : Node, left == right ↔ left = right) ∧
      (∀ node : Node, node == node) ∧
      (∀ left right : Node, left == right → right == left) ∧
      (∀ left middle right : Node, left == middle → middle == right → left == right) ∧
      (∀ span name header, ¬(methodDeclaration span name header none ==
        methodDeclaration span name header (some []))) ∧
      (∀ span name header node statements,
        ¬(methodDeclaration span name (header ++ [node]) (some statements) ==
          methodDeclaration span name header (some (node :: statements)))) ∧
      ∀ span name node arguments, ¬(methodInvocation span name (some node) arguments ==
        methodInvocation span name none (node :: arguments)) := by
  refine ⟨fun left right => beq_iff_eq, fun node => beq_self_eq_true node, ?_, ?_, ?_, ?_, ?_⟩
  · intro left right isEqual
    exact BEq.symm isEqual
  · intro left middle right isEqual isNext
    exact BEq.trans isEqual isNext
  · intro span name header
    simp
  · intro span name header node statements
    simp
  · intro span name node arguments
    simp

end Node

end JavaFacts
