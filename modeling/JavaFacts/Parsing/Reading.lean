import JavaFacts.Parsing.Stack

/-!
# Reading and building

The plain moves of the parser: building a phrase from the last trees of a stack, and completing the
text. A phrase that is built in several ways on the same stack keeps the best one.
-/

namespace JavaFacts.Parsing

open JavaFacts.Grammar

namespace Setting

/-- The actions of a state on a symbol. -/
def actionsOn (setting : Setting) (state : Nat) : NodeSymbol → List Action
  | .endOfText => setting.table.actionsOn state setting.table.tokenCount
  | .token index => setting.table.actionsOn state index
  | _ => []

/-- A node with children; without any it stands at the given place. -/
def build (setting : Setting) (symbol : NodeSymbol) (label place : Nat) (children : List Subtree) :
    Subtree :=
  .ofChildren setting.table setting.input symbol label place children

/-- The lexeme that a head reads next, as a tree. -/
def lookahead (setting : Setting) (state place : Nat) : Subtree :=
  .ofLexeme setting.table place (setting.input.lexeme setting.table state place)

end Setting

namespace Parser

/-- The most stacks that are followed at once. -/
def versionLimit : Nat := 6

/-- How many more stacks may arise for a moment. -/
def versionOverflow : Nat := 4

/-- Slices with the same head, which stand together. -/
def groupSlices : List Slice → List (Nat × List (List Subtree))
  | [] => []
  | slice :: rest =>
    match groupSlices rest with
    | (version, group) :: groups =>
      if version = slice.version then (version, slice.trees :: group) :: groups
      else (slice.version, [slice.trees]) :: (version, group) :: groups
    | [] => [(slice.version, [slice.trees])]

/-- The best way to build a phrase from alternative lists of trees, with the extras after it. -/
def bestPhrase (setting : Setting) (phrase label place : Nat) (trees : List Subtree)
    (others : List (List Subtree)) : Subtree × List Subtree :=
  let make := fun (trees : List Subtree) =>
    let (children, extras) := Subtree.splitExtras trees
    (setting.build (.phrase phrase) label place children, extras)
  others.foldl
    (fun best trees =>
      let new := make trees
      if best.1.secondIsBetter setting.table new.1 then new else best)
    (make trees)

/-- Merges a new head into the first earlier one that it can be merged with. -/
def mergeIntoEarlier (setting : Setting) (except version : Nat) : List Nat → Parser Bool
  | [] => pure false
  | earlier :: rest => do
    if earlier = except then mergeIntoEarlier setting except version rest
    else if ← merge setting earlier version then return true
    else mergeIntoEarlier setting except version rest

/--
Builds a phrase on each group of slices. Heads that have been removed since the slices were made
shift the numbers of the later ones.
-/
def buildOn (setting : Setting) (version phrase : Nat) (weight : Int) (label limit : Nat) :
    List (Nat × List (List Subtree)) → (removed : Nat) → Parser Unit
  | [], _ => pure ()
  | (sliceVersion, trees) :: groups, removed => do
    let current := sliceVersion - removed
    if limit < current then
      removeHead current
      buildOn setting version phrase weight label limit groups (removed + 1)
    else
      let below ← top current
      let (tree, extras) :=
        bestPhrase setting phrase label below.place (trees.headD []) (trees.drop 1)
      let tree := tree.mapFacts fun facts => { facts with weight := facts.weight + weight }
      let next := setting.table.afterPhrase below.state phrase
      push current (some tree) next
      extras.forM fun extra => push current (some extra) next
      let merged ← mergeIntoEarlier setting version current (List.range current)
      buildOn setting version phrase weight label limit groups
        (if merged then removed + 1 else removed)

/--
Builds a phrase from the last `count` trees of a stack. The stack itself stays; each way to build
the phrase makes a new head, and the result is the first of those that remain.
-/
def reduce (setting : Setting) (version phrase count : Nat) (weight : Int) (label : Nat) :
    Parser (Option Nat) := do
  let before ← headCount
  let slices ← pop version count
  let halted := ((← get).heads.filter fun head => head.status.isHalted).size
  buildOn setting version phrase weight label (versionLimit + versionOverflow + halted)
    (groupSlices slices.toList) 0
  return if before < (← headCount) then some before else none

/-- The tree of the whole text: the last tree that is no extra takes the extras around it. -/
def rootOf (setting : Setting) (trees : List Subtree) : Option Subtree :=
  let reversed := trees.reverse
  let after := (reversed.takeWhile Subtree.isExtra).reverse
  match reversed.dropWhile Subtree.isExtra with
  | [] => none
  | main :: before =>
    some (setting.build main.symbol main.facts.label main.facts.begin
      (before.reverse ++ main.children ++ after))

/-- Completes the text on a stack, and keeps the best complete tree. -/
def accept (setting : Setting) (version : Nat) (lookahead : Subtree) : Parser Unit := do
  push version (some lookahead) 1
  let slices ← popAll version
  slices.forM fun slice =>
    match rootOf setting slice.trees with
    | none => pure ()
    | some root =>
      modify fun machine =>
        { machine with
          finishedCount := machine.finishedCount + 1
          finished :=
            match machine.finished with
            | none => some root
            | some known =>
              if known.secondIsBetter setting.table root then some root else some known }
  match slices[0]? with
  | some slice => removeHead slice.version
  | none => pure ()
  halt version

end Parser

end JavaFacts.Parsing
