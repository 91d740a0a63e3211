import JavaFacts.Proofs.Extraction

/-!
# The stored order of siblings

A tree is walked in the order of the text, whatever the order in which siblings are stored. So the
items of a unit, the children of an expression and the header of a declaration can be put into
another order, here and there in a tree and at several depths at once, as long as siblings that
start together stay in their order. The other parts of a node are read in the order in which they
are stored, and keep it.

Two trees that differ like this are related node by node: a visitor that is told the same by related
nodes walks both trees alike, because their children in the order of the text are related again.
-/

namespace JavaFacts

open InOrder

namespace Node

/-! ## Siblings in another order -/

/-- Siblings in another order, where siblings that start together stay in theirs. -/
structure Rearranged (siblings others : List Node) : Prop where
  perm : siblings.Perm others
  stable : ∀ offset,
    siblings.filter (fun node => node.start == offset) =
      others.filter (fun node => node.start == offset)

namespace Rearranged

variable {siblings others : List Node}

theorem refl (siblings : List Node) : Rearranged siblings siblings := ⟨.refl _, fun _ => rfl⟩

/-- Siblings that start at different offsets can be put into any order. -/
theorem of_distinct (perm : siblings.Perm others)
    (distinct : siblings.Pairwise fun left right => left.start ≠ right.start) :
    Rearranged siblings others := by
  refine ⟨perm, ?_⟩
  intro offset
  have permFiltered := perm.filter fun node => node.start == offset
  have starts : ∀ node ∈ siblings.filter (fun node => node.start == offset),
      node.start = offset := by
    intro node isNode
    simpa using (List.mem_filter.mp isNode).2
  have distinctFiltered := distinct.filter fun node => node.start == offset
  generalize siblings.filter (fun node => node.start == offset) = here at *
  -- At most one of the siblings starts at the offset.
  rcases here with _ | ⟨first, _ | ⟨second, rest⟩⟩
  · exact permFiltered.nil_eq
  · exact List.singleton_perm.mp permFiltered
  · have differ := List.rel_of_pairwise_cons distinctFiltered List.mem_cons_self
    rw [starts first (by simp), starts second (by simp)] at differ
    exact absurd rfl differ

theorem append_right (rearranged : Rearranged siblings others) (nodes : List Node) :
    Rearranged (siblings ++ nodes) (others ++ nodes) where
  perm := rearranged.perm.append_right nodes
  stable offset := by rw [List.filter_append, List.filter_append, rearranged.stable]

end Rearranged

theorem mem_of_stable {siblings others : List Node}
    (stable : ∀ offset, siblings.filter (fun node => node.start == offset) =
      others.filter (fun node => node.start == offset))
    {node : Node} (isSibling : node ∈ siblings) : node ∈ others := by
  have isThere : node ∈ siblings.filter (fun other => other.start == node.start) :=
    List.mem_filter.mpr ⟨isSibling, by simp⟩
  rw [stable] at isThere
  exact List.mem_of_mem_filter isThere

theorem start_le_of_sorted {first node : Node} {rest : List Node}
    (sorted : (first :: rest).Pairwise fun left right => left.start ≤ right.start)
    (isNode : node ∈ first :: rest) : first.start ≤ node.start := by
  rcases List.mem_cons.mp isNode with rfl | isLater
  · exact Nat.le_refl _
  · exact List.rel_of_pairwise_cons sorted isLater

/-- Sorted nodes are determined by the orders of those that start together. -/
theorem eq_of_sorted_of_stable {siblings others : List Node}
    (sorted : siblings.Pairwise fun left right => left.start ≤ right.start)
    (othersSorted : others.Pairwise fun left right => left.start ≤ right.start)
    (stable : ∀ offset, siblings.filter (fun node => node.start == offset) =
      others.filter (fun node => node.start == offset)) :
    siblings = others := by
  induction siblings generalizing others with
  | nil =>
      rcases others with _ | ⟨other, others⟩
      · rfl
      · cases mem_of_stable (fun offset => (stable offset).symm) List.mem_cons_self
  | cons first rest ih =>
      rcases others with _ | ⟨other, others⟩
      · cases mem_of_stable stable List.mem_cons_self
      have sameStart : first.start = other.start := Nat.le_antisymm
        (start_le_of_sorted sorted
          (mem_of_stable (fun offset => (stable offset).symm) List.mem_cons_self))
        (start_le_of_sorted othersSorted (mem_of_stable stable List.mem_cons_self))
      have together := stable first.start
      rw [List.filter_cons_of_pos (by simp), List.filter_cons_of_pos (by simp [sameStart]),
        List.cons.injEq] at together
      rcases together with ⟨rfl, restTogether⟩
      congr 1
      apply ih sorted.of_cons othersSorted.of_cons
      intro offset
      by_cases isHere : first.start = offset
      · rw [← isHere, restTogether]
      · have stableHere := stable offset
        rwa [List.filter_cons_of_neg (by simpa using isHere),
          List.filter_cons_of_neg (by simpa using isHere)] at stableHere

theorem Rearranged.mergeSort_eq {siblings others : List Node}
    (rearranged : Rearranged siblings others) :
    siblings.mergeSort startsBefore = others.mergeSort startsBefore := by
  apply eq_of_sorted_of_stable (sorted_mergeSort siblings) (sorted_mergeSort others)
  intro offset
  rw [filter_start_mergeSort, filter_start_mergeSort, rearranged.stable]

/-- Related nodes that start together are related after they are sorted. -/
theorem forall₂_mergeSort {relation : Node → Node → Prop}
    (sameStart : ∀ {left right}, relation left right → left.start = right.start)
    {nodes others : List Node} (related : List.Forall₂ relation nodes others) :
    List.Forall₂ relation (nodes.mergeSort startsBefore) (others.mergeSort startsBefore) := by
  -- Both lists are sorted at once, as a list of pairs.
  rcases List.forall₂_iff_zip.mp related with ⟨sameLength, areRelated⟩
  have starts : ∀ pair ∈ nodes.zip others, pair.1.start = pair.2.start := fun pair isPair =>
    sameStart (areRelated isPair)
  have areNodes : nodes = (nodes.zip others).map Prod.fst :=
    (List.map_fst_zip (Nat.le_of_eq sameLength)).symm
  have areOthers : others = (nodes.zip others).map Prod.snd :=
    (List.map_snd_zip (Nat.le_of_eq sameLength.symm)).symm
  generalize nodes.zip others = pairs at *
  have sortedNodes : (pairs.mergeSort fun left right => startsBefore left.1 right.1).map Prod.fst =
      nodes.mergeSort startsBefore := by
    rw [areNodes]
    exact List.map_mergeSort fun _ _ _ _ => rfl
  have sortedOthers : (pairs.mergeSort fun left right => startsBefore left.1 right.1).map Prod.snd =
      others.mergeSort startsBefore := by
    rw [areOthers]
    apply List.map_mergeSort
    intro left isLeft right isRight
    rw [startsBefore, startsBefore, starts left isLeft, starts right isRight]
  rw [← sortedNodes, ← sortedOthers, List.forall₂_map_left_iff, List.forall₂_map_right_iff,
    List.forall₂_same]
  intro pair isPair
  exact areRelated (List.mem_mergeSort.mp isPair)

/-! ## Trees in another order -/

/--
A tree in which the items of units, the children of expressions and the headers of declarations may
have been put into another order, at any number of nodes.
-/
inductive Reordered : Node → Node → Prop
  | compilationUnit {span : Span} {items changed others : List Node}
      (below : List.Forall₂ Reordered items changed) (rearranged : Rearranged changed others) :
      Reordered (.compilationUnit span items) (.compilationUnit span others)
  | bodiless {span : Span} {name : String} {header changed others : List Node}
      (below : List.Forall₂ Reordered header changed) (rearranged : Rearranged changed others) :
      Reordered (.methodDeclaration span name header none)
        (.methodDeclaration span name others none)
  | declaration {span : Span} {name : String}
      {header changed others statements otherStatements : List Node}
      (below : List.Forall₂ Reordered header changed) (rearranged : Rearranged changed others)
      (inBody : List.Forall₂ Reordered statements otherStatements) :
      Reordered (.methodDeclaration span name header (some statements))
        (.methodDeclaration span name others (some otherStatements))
  | call {span : Span} {name : String} {arguments others : List Node}
      (below : List.Forall₂ Reordered arguments others) :
      Reordered (.methodInvocation span name none arguments)
        (.methodInvocation span name none others)
  | callOn {span : Span} {name : String} {receiver otherReceiver : Node}
      {arguments others : List Node} (inReceiver : Reordered receiver otherReceiver)
      (below : List.Forall₂ Reordered arguments others) :
      Reordered (.methodInvocation span name (some receiver) arguments)
        (.methodInvocation span name (some otherReceiver) others)
  | variableDeclaration {span : Span} {fragments others : List Node}
      (below : List.Forall₂ Reordered fragments others) :
      Reordered (.variableDeclaration span fragments) (.variableDeclaration span others)
  | fragment {span : Span} {name : String} :
      Reordered (.variableFragment span name none) (.variableFragment span name none)
  | initialized {span : Span} {name : String} {initializer other : Node}
      (below : Reordered initializer other) :
      Reordered (.variableFragment span name (some initializer))
        (.variableFragment span name (some other))
  | expression {span : Span} {kind : String} {children changed others : List Node}
      (below : List.Forall₂ Reordered children changed) (rearranged : Rearranged changed others) :
      Reordered (.expression span kind children) (.expression span kind others)
  | literal {span : Span} {kind : LiteralKind} :
      Reordered (.literal span kind) (.literal span kind)

namespace Reordered

variable {node other : Node}

theorem span_eq (reordered : Reordered node other) : node.span = other.span := by
  cases reordered <;> rfl

theorem start_eq (reordered : Reordered node other) : node.start = other.start :=
  congrArg Span.start reordered.span_eq

/-- The children of both nodes correspond to each other, up to their order. -/
theorem declaredChildren (reordered : Reordered node other) :
    ∃ changed, List.Forall₂ Reordered node.declaredChildren changed ∧
      Rearranged changed other.declaredChildren := by
  cases reordered with
  | compilationUnit below rearranged => exact ⟨_, below, rearranged⟩
  | bodiless below rearranged =>
      exact ⟨_, List.rel_append below .nil, rearranged.append_right []⟩
  | declaration below rearranged inBody =>
      exact ⟨_, List.rel_append below inBody, rearranged.append_right _⟩
  | call below => exact ⟨_, below, .refl _⟩
  | callOn inReceiver below => exact ⟨_, .cons inReceiver below, .refl _⟩
  | variableDeclaration below => exact ⟨_, below, .refl _⟩
  | fragment => exact ⟨_, .nil, .refl _⟩
  | initialized below => exact ⟨_, .cons below .nil, .refl _⟩
  | expression below rearranged => exact ⟨_, below, rearranged⟩
  | literal => exact ⟨_, .nil, .refl _⟩

/-- In the order of the text the children of both nodes correspond to each other. -/
theorem children (reordered : Reordered node other) :
    List.Forall₂ Reordered node.children other.children := by
  rcases reordered.declaredChildren with ⟨changed, below, rearranged⟩
  rw [Node.children, Node.children, ← rearranged.mergeSort_eq]
  exact forall₂_mergeSort start_eq below

end Reordered

end Node

/-! ## Walks -/

/-- A visitor that related nodes tell the same walks them alike, if their children are related. -/
theorem Visitor.walkAll_of_related {σ ε : Type} {visitor : Visitor σ ε}
    {relation : Node → Node → Prop}
    (sameVisit : ∀ {node other}, relation node other → visitor.visit node = visitor.visit other)
    (below : ∀ {node other}, relation node other →
      List.Forall₂ relation node.children other.children)
    {stack others : List Node} (related : List.Forall₂ relation stack others) (state : σ) :
    visitor.walkAll state stack = visitor.walkAll state others := by
  induction stack using Node.stack_induction generalizing others state with
  | nil =>
      cases related
      rfl
  | cons node rest ihBelow ihRest =>
      rcases related with _ | ⟨isRelated, restRelated⟩
      have sameAnswer := congrFun (sameVisit isRelated) state
      rcases answer : visitor.visit node state with ⟨next, _ | _ | error⟩
      · rw [walkAll_descend answer, walkAll_descend (sameAnswer.symm.trans answer)]
        exact ihBelow (List.rel_append (below isRelated) restRelated) next
      · rw [walkAll_skip answer, walkAll_skip (sameAnswer.symm.trans answer)]
        exact ihRest restRelated next
      · rw [walkAll_stop answer, walkAll_stop (sameAnswer.symm.trans answer)]

namespace Extraction

open Node

theorem fragmentName_of_reordered {node other : Node} (reordered : Reordered node other)
    (method : String) : fragmentName method node = fragmentName method other := by
  cases reordered <;> rfl

theorem statementVariables_of_reordered {node other : Node} (reordered : Reordered node other)
    (method : String) : statementVariables method node = statementVariables method other := by
  cases reordered with
  | variableDeclaration below =>
      apply mapM_congr
      exact below.imp fun _ _ isReordered => fragmentName_of_reordered isReordered method
  | _ => rfl

theorem localVariables_of_reordered {statements others : List Node}
    (reordered : List.Forall₂ Reordered statements others) (method : String) :
    localVariables method statements = localVariables method others := by
  have sameVariables := mapM_congr (reordered.imp fun _ _ isReordered =>
    statementVariables_of_reordered isReordered method)
  rw [localVariables, sameVariables, localVariables]

theorem recordInvocation_congr {unit : SourceUnit} {name : String}
    {receiver otherReceiver : Option Node} {arguments others : List Node}
    (sameReceiver : recordReceiver unit name receiver = recordReceiver unit name otherReceiver)
    (texts : arguments.mapM unit.text = others.mapM unit.text) (span : Span) :
    recordInvocation unit span name receiver arguments =
      recordInvocation unit span name otherReceiver others := by
  funext facts
  rw [recordInvocation, sameReceiver, texts, recordInvocation]

/-- The same is recorded at a node, in whatever order what is below it is stored. -/
theorem visit_of_reordered {node other : Node} (reordered : Reordered node other)
    (unit : SourceUnit) : (extractor unit).visit node = (extractor unit).visit other := by
  have sameText : ∀ {argument other : Node}, Reordered argument other →
      unit.text argument = unit.text other := by
    intro argument other isReordered
    rw [SourceUnit.text, isReordered.span_eq, SourceUnit.text]
  cases reordered with
  | @declaration span name header changed others statements otherStatements below rearranged
      inBody =>
      change recordDeclaration unit span name (some statements) =
        recordDeclaration unit span name (some otherStatements)
      funext facts
      rw [recordDeclaration, Option.getD_some, localVariables_of_reordered inBody]
      rfl
  | @call span name arguments others below =>
      exact recordInvocation_congr rfl (mapM_congr (below.imp fun _ _ => sameText)) span
  | @callOn span name receiver otherReceiver arguments others inReceiver below =>
      refine recordInvocation_congr ?_ (mapM_congr (below.imp fun _ _ => sameText)) span
      funext facts
      simp only [recordReceiver, sameText inReceiver]
  | _ => rfl

end Extraction

namespace SourceUnit

open Extraction

/--
Extraction does not depend on the order in which the items of units, the children of expressions and
the headers of declarations are stored: the facts are the same and in the same order, or else the
defect is the same.
-/
theorem extract_of_reordered (source : String) {root other : Node}
    (reordered : Node.Reordered root other) :
    (ofTree source root).extract = (ofTree source other).extract := by
  have sameWalk : (extractor (ofTree source root)).walk (ofTree source root).root .empty =
      (extractor (ofTree source root)).walk (ofTree source other).root .empty :=
    Visitor.walkAll_of_related (fun isReordered => visit_of_reordered isReordered _)
      Node.Reordered.children (.cons reordered .nil) Facts.empty
  rw [extract, extract, extractor_ofTree source other root, sameWalk]

/-! ## A unit that is stored backwards -/

namespace StoredBackwards

def source : String := "@A(f()) @B(g()) int m() \x7b int x = p(); \x7d \x7b h(); k(); \x7d"

/-- A call without arguments of a method with a short name. -/
def call (start : Nat) (name : String) : Node := .methodInvocation ⟨start, 3⟩ name none []

def fragment : Node := .variableFragment ⟨30, 7⟩ "x" (some (call 34 "p"))

def statement : Node := .variableDeclaration ⟨26, 12⟩ [fragment]

/-- The declaration with its annotations in some order. -/
def declaration (header : List Node) : Node :=
  .methodDeclaration ⟨0, 40⟩ "m" header (some [statement])

def block (children : List Node) : Node := .expression ⟨41, 13⟩ "block" children

def forwards : Node :=
  .compilationUnit ⟨0, 54⟩ [
    declaration [call 3 "f", call 11 "g"], block [call 43 "h", call 48 "k"]]

def backwards : Node :=
  .compilationUnit ⟨0, 54⟩ [
    block [call 48 "k", call 43 "h"], declaration [call 11 "g", call 3 "f"]]

theorem reordered_call (start : Nat) (name : String) :
    Node.Reordered (call start name) (call start name) :=
  .call .nil

theorem reordered_backwards : Node.Reordered backwards forwards := by
  have ofBlock : Node.Reordered (block [call 48 "k", call 43 "h"])
      (block [call 43 "h", call 48 "k"]) :=
    .expression (.cons (reordered_call 48 "k") (.cons (reordered_call 43 "h") .nil))
      (.of_distinct (.swap _ _ _) (by decide))
  have ofDeclaration : Node.Reordered (declaration [call 11 "g", call 3 "f"])
      (declaration [call 3 "f", call 11 "g"]) :=
    .declaration (.cons (reordered_call 11 "g") (.cons (reordered_call 3 "f") .nil))
      (.of_distinct (.swap _ _ _) (by decide))
      (.cons (.variableDeclaration (.cons (.initialized (reordered_call 34 "p")) .nil)) .nil)
  exact .compilationUnit (.cons ofBlock (.cons ofDeclaration .nil))
    (.of_distinct (.swap _ _ _) (by decide))

theorem preorder_forwards :
    forwards.preorder = [
      forwards, declaration [call 3 "f", call 11 "g"], call 3 "f", call 11 "g", statement, fragment,
      call 34 "p", block [call 43 "h", call 48 "k"], call 43 "h", call 48 "k"] := by
  have ofRoot : forwards.children =
      [declaration [call 3 "f", call 11 "g"], block [call 43 "h", call 48 "k"]] :=
    Node.mergeSort_eq_of_sorted (by decide)
  have ofDeclaration : (declaration [call 3 "f", call 11 "g"]).children =
      [call 3 "f", call 11 "g", statement] :=
    Node.mergeSort_eq_of_sorted (by decide)
  have ofStatement : statement.children = [fragment] := Node.mergeSort_eq_of_sorted (by decide)
  have ofFragment : fragment.children = [call 34 "p"] := Node.mergeSort_eq_of_sorted (by decide)
  have ofBlock : (block [call 43 "h", call 48 "k"]).children = [call 43 "h", call 48 "k"] :=
    Node.mergeSort_eq_of_sorted (by decide)
  have ofCall : ∀ start name, (call start name).children = [] := fun start name =>
    Node.mergeSort_eq_of_sorted .nil
  simp [Node.preorder_eq, Node.preorderAll, ofRoot, ofDeclaration, ofStatement, ofFragment, ofBlock,
    ofCall]

theorem sound_forwards :
    ∀ node ∈ (ofTree source forwards).root.preorder, Sound (ofTree source forwards) node := by
  change ∀ node ∈ forwards.preorder, _
  rw [preorder_forwards]
  decide +kernel

/-- The facts come in the order of the text, although everything is stored the other way round. -/
theorem extract_backwards : Node.Reordered backwards forwards ∧
    ∃ facts, (ofTree source backwards).extract = .ok facts ∧
      facts.declarations.toList = [⟨"m", 1, 1, ["x"]⟩] ∧
      facts.calls.toList.map Call.name = ["f", "g", "p", "h", "k"] := by
  have isOk := extract_of_allSound sound_forwards
  have isSame := extract_of_reordered source reordered_backwards
  refine ⟨reordered_backwards, _, isSame.trans isOk, ?_, ?_⟩
  · rw [declarations_of_extract isOk]
    change forwards.preorder.filterMap _ = _
    rw [preorder_forwards]
    decide +kernel
  · rw [calls_of_extract isOk]
    change (forwards.preorder.filterMap _).map _ = _
    rw [preorder_forwards]
    rfl

end StoredBackwards

end SourceUnit

end JavaFacts
