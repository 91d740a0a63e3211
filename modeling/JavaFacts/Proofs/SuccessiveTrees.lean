import JavaFacts.Proofs.Extraction
import JavaFacts.Proofs.Receivers

/-!
# Walking trees one after another

Several trees of a source can be walked with the same facts. If no walk is stopped, the facts add up:
they are those from before with those that each tree has alone, one after another. For declarations
and calls this means that lists are appended. A receiver may occur in several trees; its calls are
put behind the earlier ones, and a receiver that is new comes last.

If the trees start one after another, they may as well be walked as the items of one unit.
-/

namespace JavaFacts

open InOrder

/-- Facts with other ones after them, where calls on the same receiver come together. -/
def Facts.append (facts other : Facts) : Facts where
  declarations := facts.declarations ++ other.declarations
  calls := facts.calls ++ other.calls
  receivers := facts.receivers.merge other.receivers

namespace Facts

theorem toList_foldl_append {α : Type} {listed : Facts → Array α}
    (appended : ∀ facts other, listed (append facts other) = listed facts ++ listed other)
    (facts : Facts) (parts : List Facts) :
    (listed (parts.foldl append facts)).toList =
      (listed facts).toList ++ parts.flatMap fun part => (listed part).toList := by
  induction parts generalizing facts with
  | nil => simp
  | cons part rest ih =>
      rw [List.foldl_cons, ih, appended, Array.toList_append, List.append_assoc, List.flatMap_cons]

theorem receivers_foldl_append (facts : Facts) (parts : List Facts) :
    (parts.foldl append facts).receivers =
      parts.foldl (fun receivers part => receivers.merge part.receivers) facts.receivers := by
  induction parts generalizing facts with
  | nil => rfl
  | cons part rest ih =>
      rw [List.foldl_cons, ih]
      rfl

end Facts

namespace Extraction

/-! ## The facts of one tree -/

/-- The facts of nodes come after earlier ones as if they had been collected alone. -/
theorem addFacts_eq_append (unit : SourceUnit) (facts : Facts) (nodes : List Node) :
    addFacts unit facts nodes = facts.append (addFacts unit .empty nodes) := by
  simp only [addFacts, Facts.append, Facts.empty, Array.empty_append]
  rw [ReceiverCalls.foldl_add_eq_merge]

/-- The facts of a tree alone are those that a walk of it leads to, whatever the tree of the unit. -/
theorem extract_ofTree_eq_ok_iff (root : Node) {source : String} {tree : Node} {facts : Facts} :
    (SourceUnit.ofTree source tree).extract = .ok facts ↔
      (extractor (.ofTree source root)).walk tree .empty = ⟨facts, .ok ()⟩ := by
  rw [SourceUnit.extract, extractor_ofTree source tree root]
  change ((extractor (.ofTree source root)).walk tree .empty).outcome.map
    (fun _ => ((extractor (.ofTree source root)).walk tree .empty).state) = _ ↔ _
  rcases (extractor (.ofTree source root)).walk tree .empty with ⟨state, _ | _⟩
  · simp [Except.map]
  · simp [Except.map]

/-- A walk succeeds just if all nodes are sound, and then adds their facts. -/
theorem walk_eq_ok_iff {unit : SourceUnit} {tree : Node} {facts final : Facts} :
    (extractor unit).walk tree facts = ⟨final, .ok ()⟩ ↔
      (∀ node ∈ tree.preorder, Sound unit node) ∧ final = addFacts unit facts tree.preorder := by
  constructor
  · intro isOk
    rcases walk_cases unit tree facts with
      ⟨sound, isWalk⟩ | ⟨before, node, after, defect, _, _, _, isWalk⟩
    · rw [isWalk] at isOk
      cases isOk
      exact ⟨sound, rfl⟩
    · rw [isWalk] at isOk
      cases isOk
  · rintro ⟨sound, rfl⟩
    exact walk_of_allSound sound facts

/-! ## The facts of several trees -/

/-- Walking trees one after another leads from facts to others, and no walk is stopped. -/
inductive WalksInTurn (unit : SourceUnit) : Facts → List Node → Facts → Prop
  | nil (facts : Facts) : WalksInTurn unit facts [] facts
  | cons {facts next final : Facts} {tree : Node} {rest : List Node}
      (walks : (extractor unit).walk tree facts = ⟨next, .ok ()⟩)
      (later : WalksInTurn unit next rest final) : WalksInTurn unit facts (tree :: rest) final

namespace WalksInTurn

variable {unit : SourceUnit} {source : String} {root : Node} {trees : List Node}
  {facts final : Facts}

theorem sound_and_eq (inTurn : WalksInTurn unit facts trees final) :
    (∀ node ∈ Node.preorderAll trees, Sound unit node) ∧
      final = addFacts unit facts (Node.preorderAll trees) := by
  induction inTurn with
  | nil facts => exact ⟨by simp, (addFacts_nil unit facts).symm⟩
  | cons walks later ih =>
      rcases walk_eq_ok_iff.mp walks with ⟨soundHere, rfl⟩
      rcases ih with ⟨soundLater, rfl⟩
      rw [Node.preorderAll, List.flatMap_cons, addFacts_append]
      refine ⟨?_, rfl⟩
      intro node isNode
      rcases List.mem_append.mp isNode with isHere | isLater
      · exact soundHere node isHere
      · exact soundLater node isLater

theorem exists_parts (inTurn : WalksInTurn (.ofTree source root) facts trees final) :
    ∃ parts, List.Forall₂ (fun tree part =>
        (SourceUnit.ofTree source tree).extract = .ok part) trees parts ∧
      final = parts.foldl Facts.append facts := by
  induction inTurn with
  | nil facts => exact ⟨[], .nil, rfl⟩
  | @cons facts next final tree rest walks later ih =>
      rcases walk_eq_ok_iff.mp walks with ⟨sound, rfl⟩
      rcases ih with ⟨parts, areParts, rfl⟩
      refine ⟨addFacts (.ofTree source root) .empty tree.preorder :: parts, .cons ?_ areParts, ?_⟩
      · exact (extract_ofTree_eq_ok_iff root).mpr (walk_eq_ok_iff.mpr ⟨sound, rfl⟩)
      · rw [List.foldl_cons, ← addFacts_eq_append]

/-- Trees that start one after another are walked like the items of one unit. -/
theorem extract_compilationUnit (inTurn : WalksInTurn (.ofTree source root) .empty trees final)
    (sorted : trees.Pairwise fun left right => left.start ≤ right.start) (span : Span) :
    (SourceUnit.ofTree source (.compilationUnit span trees)).extract = .ok final := by
  have areChildren : (Node.compilationUnit span trees).children = trees :=
    Node.mergeSort_eq_of_sorted sorted
  rcases inTurn.sound_and_eq with ⟨sound, rfl⟩
  rw [extract_ofTree_eq_ok_iff root, walk_eq_ok_iff, Node.preorder_eq, areChildren,
    ← List.singleton_append, addFacts_append]
  refine ⟨?_, rfl⟩
  intro node isNode
  rcases List.mem_cons.mp isNode with rfl | isBelow
  · trivial
  · exact sound node isBelow

end WalksInTurn

/--
The facts of trees that are walked one after another are composed of the facts that each tree has
alone: declarations and calls are appended, and receivers are merged tree by tree. From no facts on,
trees that start one after another have the same facts as the unit of which they are the items.
-/
theorem walksInTurn_composes {source : String} {root : Node} {trees : List Node}
    {facts final : Facts} (inTurn : WalksInTurn (.ofTree source root) facts trees final) :
    (∃ parts, List.Forall₂ (fun tree part =>
        (SourceUnit.ofTree source tree).extract = .ok part) trees parts ∧
      final.declarations.toList =
        facts.declarations.toList ++ parts.flatMap (·.declarations.toList) ∧
      final.calls.toList = facts.calls.toList ++ parts.flatMap (·.calls.toList) ∧
      final.receivers =
        parts.foldl (fun receivers part => receivers.merge part.receivers) facts.receivers) ∧
      (facts = .empty → (trees.Pairwise fun left right => left.start ≤ right.start) →
        ∀ span, (SourceUnit.ofTree source (.compilationUnit span trees)).extract = .ok final) := by
  constructor
  · rcases inTurn.exists_parts with ⟨parts, areParts, rfl⟩
    refine ⟨parts, areParts, ?_, ?_, Facts.receivers_foldl_append facts parts⟩
    · exact Facts.toList_foldl_append (fun _ _ => rfl) facts parts
    · exact Facts.toList_foldl_append (fun _ _ => rfl) facts parts
  · rintro rfl sorted span
    exact inTurn.extract_compilationUnit sorted span

/-! ## A receiver that two trees share -/

namespace SharedReceiver

def source : String := "x.f(); y.g(); x.h();"

def firstTree : Node :=
  .methodInvocation ⟨0, 5⟩ "f" (some (.expression ⟨0, 1⟩ "identifier" [])) []

def secondTree : Node :=
  .expression ⟨7, 12⟩ "block" [
    .methodInvocation ⟨7, 5⟩ "g" (some (.expression ⟨7, 1⟩ "identifier" [])) [],
    .methodInvocation ⟨14, 5⟩ "h" (some (.expression ⟨14, 1⟩ "identifier" [])) []]

def unit : SourceUnit := .ofTree source firstTree

theorem preorder_firstTree :
    firstTree.preorder = [firstTree, .expression ⟨0, 1⟩ "identifier" []] := by
  simp [firstTree, Node.preorderAll, Node.preorder_eq, Node.children, Node.declaredChildren]

theorem preorder_secondTree :
    secondTree.preorder = [secondTree,
      .methodInvocation ⟨7, 5⟩ "g" (some (.expression ⟨7, 1⟩ "identifier" [])) [],
      .expression ⟨7, 1⟩ "identifier" [],
      .methodInvocation ⟨14, 5⟩ "h" (some (.expression ⟨14, 1⟩ "identifier" [])) [],
      .expression ⟨14, 1⟩ "identifier" []] := by
  have areChildren : secondTree.children = secondTree.declaredChildren :=
    Node.mergeSort_eq_of_sorted (by decide)
  rw [Node.preorder_eq, areChildren]
  simp [secondTree, Node.preorderAll, Node.preorder_eq, Node.children, Node.declaredChildren]

theorem sound_trees : ∀ node ∈ firstTree.preorder ++ secondTree.preorder, Sound unit node := by
  rw [preorder_firstTree, preorder_secondTree]
  decide +kernel

/-- The second call on a receiver joins the first one, although it is in another tree. -/
theorem walksInTurn_sharedReceiver : ∃ final, WalksInTurn unit .empty [firstTree, secondTree] final ∧
    final.receivers.entries = #[("x", #["f", "h"]), ("y", #["g"])] ∧
    ∀ span, (SourceUnit.ofTree source (.compilationUnit span [firstTree, secondTree])).extract =
      .ok final := by
  have inTurn : WalksInTurn unit .empty [firstTree, secondTree]
      (addFacts unit (addFacts unit .empty firstTree.preorder) secondTree.preorder) := by
    refine .cons (walk_of_allSound ?_ _) (.cons (walk_of_allSound ?_ _) (.nil _))
    · exact fun node isNode => sound_trees node (List.mem_append_left _ isNode)
    · exact fun node isNode => sound_trees node (List.mem_append_right _ isNode)
  refine ⟨_, inTurn, ?_, (walksInTurn_composes inTurn).2 rfl (by decide)⟩
  rw [preorder_firstTree, preorder_secondTree]
  decide +kernel

end SharedReceiver

end Extraction

end JavaFacts
