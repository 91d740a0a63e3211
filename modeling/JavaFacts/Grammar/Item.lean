import JavaFacts.Grammar.Ends
import Std.Data.HashMap

/-!
# Items

An item is a production with a mark that divides what has been read from what is still expected. Two
items are the same as far as parsing is concerned when they agree on the phrase, on what is
expected, and on what the steps that have been read contribute to the node: their names, and the
fields that they pass on. The items of a grammar are numbered in a fixed order, which is also the
order in which reductions are tried.
-/

namespace JavaFacts.Grammar

/-- A production of a phrase with a mark; the start of the whole text has no phrase. -/
structure Item where
  phrase : Option Nat
  production : Production
  /-- The number of steps that have been read. -/
  position : Nat
  /-- Whether a step that has been read passes on fields from a node that does not show. -/
  passesFields : Bool
deriving Inhabited

/-- What a step that has been read contributes to the node. -/
structure StepTrace where
  renamed : Option String
  field : Option String
  /-- The symbol, where it matters which fields are passed on. -/
  symbol : Option Symbol
deriving BEq, Hashable

/-- What tells items apart. -/
structure ItemKey where
  phrase : Option Nat
  position : Nat
  weight : Int
  passesFields : Bool
  precedence : Option Int
  associativity : Option Associativity
  read : List StepTrace
  expected : List Step
deriving BEq, Hashable

namespace Item

/-- The step that was read last. -/
def lastRead (item : Item) : Option Step :=
  if item.position = 0 then none else item.production.steps[item.position - 1]?

/-- The precedence of an item is that of the step read last. -/
def precedence (item : Item) : Option Int := item.lastRead.bind Step.precedence

/-- The associativity of an item is that of the step read last. -/
def associativity (item : Item) : Option Associativity := item.lastRead.bind Step.associativity

def expected (item : Item) : List Step := item.production.steps.drop item.position

def key (item : Item) : ItemKey where
  phrase := item.phrase
  position := item.position
  weight := item.production.weight
  passesFields := item.passesFields
  precedence := item.precedence
  associativity := item.associativity
  read := (item.production.steps.take item.position).map fun step =>
    ⟨step.renamed, step.field, if item.passesFields then some step.symbol else none⟩
  expected := item.expected

/-- The item after one more step. -/
def advance (grammar : Plain) (item : Item) : Option Item :=
  item.production.steps[item.position]?.map fun step =>
    { item with
      position := item.position + 1
      passesFields := item.passesFields || !(grammar.inheritedFields step).isEmpty }

/-- An absent value comes before every value. -/
def compareOptional {α : Type} [Ord α] : Option α → Option α → Ordering
  | none, none => .eq
  | none, some _ => .lt
  | some _, none => .gt
  | some left, some right => compare left right

/-- Compares the names that two steps give. -/
def compareNames (left right : Step) : Ordering :=
  (compareOptional left.renamed right.renamed).then (compareOptional left.field right.field)

/-- Compares steps that are still expected. -/
def compareExpected (left right : Step) : Ordering :=
  (left.symbol.compare right.symbol)
    |>.then (compareOptional left.precedence right.precedence)
    |>.then (compare (Associativity.rank left.associativity) (Associativity.rank right.associativity))
    |>.then (compareNames left right)

/-- Compares two lists step by step, as far as both go. -/
def compareSteps (comparison : Step → Step → Ordering) : List Step → List Step → Ordering
  | left :: lefts, right :: rights =>
    (comparison left right).then (compareSteps comparison lefts rights)
  | _, _ => .eq

/-- The order of items. -/
def compare (left right : Item) : Ordering :=
  (Ord.compare left.position right.position)
    |>.then (compareOptional left.phrase right.phrase)
    |>.then (Ord.compare left.production.weight right.production.weight)
    |>.then (Ord.compare left.production.steps.length right.production.steps.length)
    |>.then (compareOptional left.precedence right.precedence)
    |>.then
      (Ord.compare (Associativity.rank left.associativity) (Associativity.rank right.associativity))
    |>.then
      (compareSteps compareNames
        (left.production.steps.take left.position) (right.production.steps.take right.position))
    |>.then (compareSteps compareExpected left.expected right.expected)

end Item

/-! ## Labels -/

/-- How a child of a node shows: its kind if changed, its field, and the fields that it passes on. -/
structure ChildLabel where
  renamed : Option String
  field : Option String
  inherited : List String
deriving BEq, Hashable, Inhabited

namespace ChildLabel

/-- Whether the label leaves the child as it is. -/
def isPlain (label : ChildLabel) : Bool :=
  label.renamed.isNone && label.field.isNone && label.inherited.isEmpty

end ChildLabel

/-- The labels of the children of a node; the last labels are left out if they are plain. -/
abbrev NodeLabel := List ChildLabel

/-- The labels of the node that a production builds. -/
def Production.label (grammar : Plain) (production : Production) : NodeLabel :=
  production.steps.foldr
    (fun step later =>
      let label : ChildLabel := ⟨step.renamed, step.field, grammar.inheritedFields step⟩
      if label.isPlain && later.isEmpty then [] else label :: later)
    []

/-! ## The items of a grammar -/

/-- What the construction of states needs to know about an item. -/
structure ItemFacts where
  phrase : Option Nat
  /-- The number of steps that have been read. -/
  position : Nat
  weight : Int
  precedence : Option Int
  associativity : Option Associativity
  /-- The symbol that is expected next. -/
  next : Option Symbol
  /-- The tokens that can follow the next symbol, if more is expected after it. -/
  afterNext : Option TokenSet
  /-- The number of the labels of the node. -/
  label : Nat
  /-- The number of the item after one more step. -/
  successor : Nat
deriving Inhabited

/-- The numbered items of a grammar with the labels of the nodes that they build. -/
structure Items where
  facts : Array ItemFacts
  /-- The item of the whole text. -/
  start : Nat
  /-- For every phrase the items before its productions. -/
  initial : Array (List Nat)
  labels : Array NodeLabel
deriving Inhabited

namespace Items

/-- The item and all that follow it, as far as its production goes. -/
def chain (grammar : Plain) : (fuel : Nat) → Item → List Item
  | 0, item => [item]
  | fuel + 1, item =>
    match item.advance grammar with
    | some next => item :: chain grammar fuel next
    | none => [item]

/-- The item before a production. -/
def before (phrase : Option Nat) (production : Production) : Item := ⟨phrase, production, 0, false⟩

/-- The item before the first phrase, which is the whole text. -/
def startItem : Item := before none ⟨0, [{ Step.unmarked with symbol := .phrase 0 }]⟩

/-- The items before the productions of every phrase; inlined phrases have no uses. -/
def initialItems (grammar : Plain) : Array (List Item) :=
  grammar.phrases.mapIdx fun index phrase =>
    if phrase.inlined then [] else phrase.productions.map (before (some index))

/-- Keeps the first of the items that are the same. -/
def distinct (items : List Item) : List Item :=
  (items.foldl
    (fun (seen, kept) item =>
      let key := item.key
      if Std.HashMap.contains seen key then (seen, kept)
      else (seen.insert key (), item :: kept))
    ((∅ : Std.HashMap ItemKey Unit), [])).2.reverse

/-- Numbers the labels that occur, the empty one first. -/
def numberLabels (labels : List NodeLabel) : Array NodeLabel × Std.HashMap NodeLabel Nat :=
  labels.foldl
    (fun (list, numbers) label =>
      if Std.HashMap.contains numbers label then (list, numbers)
      else (list.push label, numbers.insert label list.size))
    (#[[]], (∅ : Std.HashMap NodeLabel Nat).insert [] 0)

/-- The items of a grammar. -/
def ofGrammar (grammar : Plain) (first : EndTokens) : Items :=
  let initial := initialItems grammar
  let all := (startItem :: initial.toList.flatten).flatMap fun item =>
    chain grammar item.production.steps.length item
  let items := (distinct all).mergeSort fun left right => (Item.compare left right).isLE
  let numbers : Std.HashMap ItemKey Nat :=
    items.zipIdx.foldl (fun numbers (item, index) => numbers.insert item.key index) ∅
  let numberOf := fun (item : Item) => numbers.getD item.key 0
  let (labels, labelNumbers) := numberLabels (items.map fun item => item.production.label grammar)
  let facts := items.map fun item =>
    let expected := item.expected
    { phrase := item.phrase
      position := item.position
      weight := item.production.weight
      precedence := item.precedence
      associativity := item.associativity
      next := expected[0]?.map Step.symbol
      afterNext := expected[1]?.map fun step => first.ofSymbol step.symbol
      label := labelNumbers.getD (item.production.label grammar) 0
      successor := ((item.advance grammar).map numberOf).getD 0 }
  { facts := facts.toArray
    start := numberOf startItem
    initial := initial.map fun items => items.map numberOf
    labels := labels }

end Items

end JavaFacts.Grammar
