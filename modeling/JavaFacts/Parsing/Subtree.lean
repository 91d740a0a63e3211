import JavaFacts.Parsing.Input

/-!
# Subtrees

The parser builds a tree of every token and every phrase, shown or not. A subtree carries sums over
what is below it: the cost of the errors, the weight of the reading, and how many nodes will show.
-/

namespace JavaFacts.Parsing

open JavaFacts.Grammar

/-- What a subtree stands for. -/
inductive NodeSymbol where
  | endOfText
  | token (index : Nat)
  | phrase (index : Nat)
  /-- Text that the parser skips, while it is still skipping. -/
  | skipping
  /-- Text that could not be parsed. -/
  | error
deriving BEq, DecidableEq, Inhabited

namespace NodeSymbol

/-- The order of symbols by which equally good readings are told apart. -/
def rank (table : Table) : NodeSymbol → Nat
  | endOfText => 0
  | token index =>
    if index = table.word then 1 else if index < table.word then index + 2 else index + 1
  | phrase index => table.tokenCount + 1 + index
  | skipping => table.tokenCount + table.phraseLooks.size + 1
  | error => table.tokenCount + table.phraseLooks.size + 2

/-- How the nodes of a symbol show. -/
def look (table : Table) : NodeSymbol → SymbolLook
  | endOfText => ⟨"end", false, true⟩
  | token index => table.tokenLooks.getD index default
  | phrase index => table.phraseLooks.getD index default
  | skipping => ⟨"_ERROR", false, false⟩
  | error => ⟨"ERROR", true, true⟩

/-- Whether the symbol marks text that could not be parsed. -/
def isError : NodeSymbol → Bool
  | skipping => true
  | error => true
  | _ => false

end NodeSymbol

/-! ## Costs -/

/-- The cost of every part of the tree that is skipped. -/
def costOfSkippedTree : Nat := 100

/-- The cost of every byte that is skipped. -/
def costOfSkippedByte : Nat := 1

/-- The cost of every line that is skipped. -/
def costOfSkippedLine : Nat := 30

/-- The cost of every recovery from an error. -/
def costOfRecovery : Nat := 500

/-- The cost of a token that is missing. -/
def costOfMissing : Nat := 110 + costOfRecovery

/-- The cost of skipping the text between two places. -/
def Input.costBetween (input : Input) (start stop : Nat) : Nat :=
  costOfSkippedByte * input.bytesBetween start stop +
    costOfSkippedLine * input.rowsBetween start stop

/-! ## Trees -/

/-- What is known about a subtree without looking at its children. -/
structure SubtreeFacts where
  symbol : NodeSymbol
  /-- The place before the separators in front of the first token. -/
  begin : Nat
  start : Nat
  stop : Nat
  /-- Whether the node may stand anywhere. -/
  extra : Bool
  /-- Whether a token was read as a keyword, and could have been an identifier. -/
  keyword : Bool
  /-- Whether the token is not in the text and was put in by the parser. -/
  missing : Bool
  visible : Bool
  cost : Nat
  weight : Int
  /-- The number of nodes below that show. -/
  visibleDescendants : Nat
  /-- The number of children that show, where hidden nodes count for their children. -/
  visibleChildren : Nat
  /-- The number of the labels of the children. -/
  label : Nat
  childCount : Nat
  /-- The number of all nodes, this one included. -/
  size : Nat
deriving Inhabited

/-- A node of the tree that the parser builds. -/
inductive Subtree where
  | node (facts : SubtreeFacts) (children : List Subtree)
deriving Inhabited

namespace Subtree

def facts : Subtree → SubtreeFacts
  | node facts _ => facts

def children : Subtree → List Subtree
  | node _ children => children

/-- Changes what is known about a subtree. -/
def mapFacts (change : SubtreeFacts → SubtreeFacts) : Subtree → Subtree
  | node facts children => node (change facts) children

def symbol (tree : Subtree) : NodeSymbol := tree.facts.symbol

def isExtra (tree : Subtree) : Bool := tree.facts.extra

def setExtra (tree : Subtree) (extra : Bool) : Subtree :=
  tree.mapFacts ({ · with extra := extra })

/-- The number of nodes by which the parser measures its progress. -/
def progress (tree : Subtree) : Nat :=
  tree.facts.visibleDescendants + (if tree.facts.visible then 1 else 0) +
    (if tree.symbol = .skipping then 1 else 0)

/-- A node without children. -/
def leaf (table : Table) (symbol : NodeSymbol) (begin start stop : Nat) : Subtree :=
  node
    { symbol := symbol
      begin := begin
      start := start
      stop := stop
      extra := symbol == .endOfText
      keyword := false
      missing := false
      visible := (symbol.look table).visible
      cost := 0
      weight := 0
      visibleDescendants := 0
      visibleChildren := 0
      label := 0
      childCount := 0
      size := 1 }
    []

/-- A token that the parser puts in at a place. -/
def missingToken (table : Table) (token place : Nat) : Subtree :=
  (leaf table (.token token) place place place).mapFacts
    ({ · with missing := true, cost := costOfMissing })

/-- The leaf of a lexeme that was looked for from a place on. -/
def ofLexeme (table : Table) (place : Nat) : Input.Lexeme → Subtree
  | .token index start stop isKeyword =>
    let symbol := if index = table.tokenCount then .endOfText else .token index
    (leaf table symbol place start stop).mapFacts ({ · with keyword := isKeyword })
  | .unreadable start stop => leaf table .error place start stop

/-- The keyword of a leaf read as an identifier. -/
def asWord (table : Table) (tree : Subtree) : Subtree :=
  tree.mapFacts
    ({ · with symbol := .token table.word, visible := (table.tokenLooks.getD table.word default).visible })

/-- The cost of a child in a node of text that could not be parsed. -/
def costInError (child : SubtreeFacts) : Nat :=
  if child.extra || (child.symbol == .error && child.childCount == 0) then 0
  else if child.visible then costOfSkippedTree
  else if 0 < child.childCount then costOfSkippedTree * child.visibleChildren
  else 0

/--
Adds a child to the sums of a node. The index counts the children that are not extra, which are
those that have labels.
-/
def addChild (labels : Array ChildLabel) (inError : Bool) (sums : SubtreeFacts × Nat)
    (child : SubtreeFacts) : SubtreeFacts × Nat :=
  let (facts, index) := sums
  let shows := child.visible ||
    (!child.extra && (labels.getD index default).renamed.isSome)
  ({ facts with
      stop := child.stop
      cost := facts.cost + (if child.symbol == .skipping then 0 else child.cost) +
        (if inError then costInError child else 0)
      weight := facts.weight + child.weight
      visibleDescendants := facts.visibleDescendants + child.visibleDescendants +
        (if shows then 1 else 0)
      visibleChildren := facts.visibleChildren +
        (if shows then 1 else if 0 < child.childCount then child.visibleChildren else 0)
      childCount := facts.childCount + 1
      size := facts.size + child.size },
    if child.extra then index else index + 1)

/-- A node with children; without any it stands at the given place. -/
def ofChildren (table : Table) (input : Input) (symbol : NodeSymbol) (label place : Nat)
    (children : List Subtree) : Subtree :=
  let (begin, start) :=
    match children with
    | [] => (place, place)
    | first :: _ => (first.facts.begin, first.facts.start)
  let empty : SubtreeFacts :=
    { (leaf table symbol begin start start).facts with extra := false, label := label }
  let labels := table.labels.getD label #[]
  let (facts, _) := children.foldl
    (fun sums child => addChild labels symbol.isError sums child.facts) (empty, 0)
  let facts :=
    if symbol.isError then
      { facts with
        cost := facts.cost + costOfRecovery + input.costBetween facts.start facts.stop }
    else facts
  node facts children

/-- Compares the shapes of two trees, from the left; the pairs are still to be compared. -/
def compareShapes (table : Table) : (fuel : Nat) → List (Subtree × Subtree) → Ordering
  | 0, _ => .eq
  | _, [] => .eq
  | fuel + 1, (left, right) :: rest =>
    match compare (left.symbol.rank table) (right.symbol.rank table) with
    | .eq =>
      match compare left.facts.childCount right.facts.childCount with
      | .eq => compareShapes table fuel (left.children.zip right.children ++ rest)
      | other => other
    | other => other

/--
Whether the second of two readings of the same text is to be taken: the one with fewer errors, then
the one with more weight; of two with errors the later one, else the one with the lesser shape.
-/
def secondIsBetter (table : Table) (left right : Subtree) : Bool :=
  if right.facts.cost < left.facts.cost then true
  else if left.facts.cost < right.facts.cost then false
  else if right.facts.weight > left.facts.weight then true
  else if left.facts.weight > right.facts.weight then false
  else if 0 < left.facts.cost then true
  else compareShapes table (left.facts.size + 1) [(left, right)] == .gt

/-- Splits off the extra trees at the end. -/
def splitExtras (trees : List Subtree) : List Subtree × List Subtree :=
  let reversed := trees.reverse
  ((reversed.dropWhile isExtra).reverse, (reversed.takeWhile isExtra).reverse)

/-- Whether two links of the stack may be taken for one, as far as their trees are concerned. -/
def alike (input : Input) : Option Subtree → Option Subtree → Bool
  | none, none => true
  | some left, some right =>
    let left := left.facts
    let right := right.facts
    left.symbol == right.symbol &&
      ((0 < left.cost && 0 < right.cost) ||
        (input.bytesBetween left.begin left.start == input.bytesBetween right.begin right.start &&
          input.bytesBetween left.start left.stop == input.bytesBetween right.start right.stop &&
          left.childCount == right.childCount && left.extra == right.extra))
  | _, _ => false

end Subtree

end JavaFacts.Parsing
