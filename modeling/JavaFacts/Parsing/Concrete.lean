import JavaFacts.Concrete.Tree
import JavaFacts.Parsing.Run

/-!
# Concrete trees of texts

The tree that the parser builds holds every token and phrase. The concrete tree keeps the nodes that
show: the children of a hidden node take its place, and inherit its field unless they have one. The
conversion keeps an explicit stack, so that a deep tree needs no deep recursion.
-/

namespace JavaFacts.Parsing

open JavaFacts.Grammar

namespace Showing

/-- A subtree with the kind and the field under which it shows. -/
structure Labelled where
  tree : Subtree
  renamed : Option String
  field : Option String

/-- A node whose children are being converted, from the last to the first. -/
structure Frame where
  label : ConcreteLabel
  /-- The children that are left, the last one first. -/
  left : List Labelled
  /-- The children that are converted. -/
  shown : List ConcreteTree

/-- The children of a subtree with their labels, the last one first. -/
def labelledChildren (table : Table) (tree : Subtree) (inherited : Option String) :
    List Labelled :=
  let labels := table.labels.getD tree.facts.label #[]
  (tree.children.foldl
    (fun (known, index) child =>
      if child.isExtra then (⟨child, none, none⟩ :: known, index)
      else
        let label := labels.getD index default
        (⟨child, label.renamed, label.field <|> inherited⟩ :: known, index + 1))
    (([] : List Labelled), 0)).1

/-- The label of the node that a subtree shows as. -/
def labelOf (table : Table) (input : Input) (labelled : Labelled) : ConcreteLabel :=
  let facts := labelled.tree.facts
  let look := facts.symbol.look table
  { kind := labelled.renamed.getD look.kind
    start := input.offsets.getD facts.start 0
    stop := input.offsets.getD facts.stop 0
    named := labelled.renamed.isSome || look.named
    extra := facts.extra
    field := labelled.field
    isError := facts.symbol == .error
    isMissing := facts.missing
    hasError := decide (0 < facts.cost) }

/-- The frame of a subtree that shows. -/
def frameOf (table : Table) (input : Input) (labelled : Labelled) : Frame :=
  ⟨labelOf table input labelled, labelledChildren table labelled.tree none, []⟩

/-- Converts what is left in the frames; the last frame is the root. -/
def convert (table : Table) (input : Input) : (fuel : Nat) → Frame → List Frame → ConcreteTree
  | 0, frame, _ => .node frame.label frame.shown
  | fuel + 1, frame, frames =>
    match frame.left with
    | [] =>
      let tree := ConcreteTree.node frame.label frame.shown
      match frames with
      | [] => tree
      | parent :: frames =>
        convert table input fuel { parent with shown := tree :: parent.shown } frames
    | labelled :: left =>
      if labelled.tree.facts.visible || labelled.renamed.isSome then
        convert table input fuel (frameOf table input labelled)
          ({ frame with left := left } :: frames)
      else
        convert table input fuel
          { frame with left := labelledChildren table labelled.tree labelled.field ++ left }
          frames

end Showing

/-- The concrete tree of a text; a text for which there is no tree is one error. -/
def concreteTree (table : Table) (text : String) : ConcreteTree :=
  let input := Input.ofString table.alphabet text
  match parseSubtree table input with
  | some tree =>
    Showing.convert table input (2 * tree.facts.size + 2)
      (Showing.frameOf table input ⟨tree, none, none⟩) []
  | none => .node ⟨"ERROR", 0, text.utf8ByteSize, true, false, none, true, false, true⟩ []

end JavaFacts.Parsing
