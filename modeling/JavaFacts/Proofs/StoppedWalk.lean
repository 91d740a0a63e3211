import JavaFacts.Proofs.Extraction

/-!
# What a stopped walk leaves behind

The facts outlive a walk that is stopped: they can be read, and other trees can be walked with them.
A stopped walk has added the facts of all nodes before the one that stopped it, and nothing of the
nodes after it.

At the node itself everything that can fail is read before something is recorded, with one
exception: a call is recorded before its receiver is read. So an invocation whose receiver cannot be
read is kept among the calls, though it stopped the walk, while it is missing among the receivers.
-/

namespace JavaFacts

open InOrder

namespace Extraction

/-- An invocation that lost its receiver is recorded as a call. -/
theorem call?_of_losesReceiver {unit : SourceUnit} {node : Node}
    (loses : LosesReceiver unit node) : ∃ call, call? unit node = some call := by
  cases node with
  | methodInvocation span name receiver arguments => exact ⟨_, rfl⟩
  | _ => exact absurd loses id

/-- Nothing is recorded at the node that stops a walk, unless only its receiver cannot be read. -/
theorem factsAtStop_eq_iff {unit : SourceUnit} {node : Node} {facts : Facts} :
    factsAtStop unit facts node = facts ↔ ¬LosesReceiver unit node := by
  constructor
  · intro unchanged loses
    rcases call?_of_losesReceiver loses with ⟨call, isCall⟩
    rw [factsAtStop_of_loses loses isCall] at unchanged
    have sameSize := congrArg (fun facts => facts.calls.size) unchanged
    simp at sameSize
  · intro keeps
    exact factsAtStop_of_keeps keeps facts

/--
A walk that is stopped leaves the facts from before with those of the nodes that precede the node
with the defect. Of this node itself at most a call is recorded, and this just if the defect is that
its receiver cannot be read.
-/
theorem walk_stopped_leaves {unit : SourceUnit} {root : Node} {facts : Facts} {defect : TreeDefect}
    (isStopped : ((extractor unit).walk root facts).outcome = .error defect) :
    ∃ before node after, root.preorder = before ++ node :: after ∧
      (∀ earlier ∈ before, Sound unit earlier) ∧ FirstDefect unit node defect ∧
      ((extractor unit).walk root facts).state =
        { addFacts unit facts before with
          calls := (addFacts unit facts before).calls ++ (strandedCall? unit node).toArray } ∧
      (((extractor unit).walk root facts).state = addFacts unit facts before ↔
        ¬LosesReceiver unit node) := by
  rcases walk_cases unit root facts with
    ⟨_, isWalk⟩ | ⟨before, node, after, other, split, sound, first, isWalk⟩
  · rw [isWalk] at isStopped
    cases isStopped
  · rw [isWalk] at isStopped ⊢
    cases isStopped
    exact ⟨before, node, after, split, sound, first, rfl, factsAtStop_eq_iff⟩

/-! ## A call whose receiver lies outside of the text -/

namespace StrandedCall

def source : String := "f(); x.g(); h();"

/-- The second call; its receiver is said to go on after the end of the text. -/
def stranded : Node :=
  .methodInvocation ⟨5, 5⟩ "g" (some (.expression ⟨5, 20⟩ "identifier" [])) []

def root : Node :=
  .compilationUnit ⟨0, 16⟩ [.methodInvocation ⟨0, 3⟩ "f" none [], stranded,
    .methodInvocation ⟨12, 3⟩ "h" none []]

def unit : SourceUnit := .ofTree source root

theorem preorder_root :
    root.preorder = [root, .methodInvocation ⟨0, 3⟩ "f" none []] ++
      stranded :: [.expression ⟨5, 20⟩ "identifier" [], .methodInvocation ⟨12, 3⟩ "h" none []] := by
  have rootChildren : root.children = root.declaredChildren :=
    Node.mergeSort_eq_of_sorted (by decide)
  rw [Node.preorder_eq, rootChildren]
  simp [root, stranded, Node.preorderAll, Node.preorder_eq, Node.children, Node.declaredChildren]

theorem sound_before :
    ∀ earlier ∈ [root, .methodInvocation ⟨0, 3⟩ "f" none []], Sound unit earlier := by
  decide +kernel

theorem losesReceiver_stranded : LosesReceiver unit stranded := by decide +kernel

theorem firstDefect_stranded : FirstDefect unit stranded (.outside ⟨5, 20⟩ 16) := by
  rcases losesReceiver_stranded with ⟨plain, readable, object, isReceiver, unreadable⟩
  cases isReceiver
  exact .receiver plain readable unreadable

/-- The node that stops the walk is the second call. -/
theorem eq_stranded {before after : List Node} {node : Node}
    (split : root.preorder = before ++ node :: after)
    (sound : ∀ earlier ∈ before, Sound unit earlier) (notSound : ¬Sound unit node) :
    before = [root, .methodInvocation ⟨0, 3⟩ "f" none []] ∧ node = stranded := by
  rw [preorder_root] at split
  rcases before with _ | ⟨first, _ | ⟨second, _ | ⟨third, before⟩⟩⟩
  · cases split
    exact absurd (sound_before root (by simp)) notSound
  · cases split
    exact absurd (sound_before _ (by simp)) notSound
  · cases split
    exact ⟨rfl, rfl⟩
  · simp only [List.cons_append, List.nil_append, List.cons.injEq] at split
    have isSound : Sound unit stranded := split.2.2.1 ▸ sound third (by simp)
    exact absurd isSound (not_sound_of_firstDefect firstDefect_stranded)

/-- The walk is stopped at the second call, and yet this call is recorded, without its receiver. -/
theorem walk_strandedCall :
    ((extractor unit).walk root .empty).outcome = .error (.outside ⟨5, 20⟩ 16) ∧
      ((extractor unit).walk root .empty).state.calls = #[⟨"f", 1, 0, []⟩, ⟨"g", 1, 0, []⟩] ∧
      ((extractor unit).walk root .empty).state.receivers = .empty ∧
      ∃ before after, root.preorder = before ++ stranded :: after ∧
        FirstDefect unit stranded (.outside ⟨5, 20⟩ 16) ∧
        ((extractor unit).walk root .empty).state ≠ addFacts unit .empty before := by
  have isStopped : ((extractor unit).walk root .empty).outcome = .error (.outside ⟨5, 20⟩ 16) := by
    rw [walk_of_firstDefect preorder_root sound_before firstDefect_stranded]
  rcases walk_stopped_leaves isStopped with
    ⟨before, node, after, split, sound, first, isState, unchanged⟩
  rcases eq_stranded split sound (not_sound_of_firstDefect first) with ⟨rfl, rfl⟩
  refine ⟨isStopped, ?_, ?_, _, after, split, first, ?_⟩
  · rw [isState]
    decide +kernel
  · rw [isState]
    decide +kernel
  · intro isUnchanged
    exact unchanged.mp isUnchanged losesReceiver_stranded

end StrandedCall

end Extraction

end JavaFacts
