import JavaFacts.Grammar.Company

/-!
# Merging states

Many states differ only in the tokens that may follow, and the parser need not tell them apart.
States with the same items form a group, unless their actions disagree, or one has an action on a
token whose search would disturb the tokens of the other. Groups are divided further until states of
one group lead to the same groups. Then states whose only use is to build a phrase without a node
are passed over, and the states are put in order, those with the most actions first.
-/

namespace JavaFacts.Grammar

/-- A division of the states into groups. -/
structure Partition where
  groups : Array (List Nat)
  groupOf : Array Nat
deriving Inhabited

namespace Partition

def group (partition : Partition) (state : Nat) : Nat := partition.groupOf.getD state 0

/-- Groups states by their cores. -/
def ofCores (cores : Array Nat) : Partition :=
  let count := cores.foldl (fun count core => max count (core + 1)) 0
  let groups := cores.size.foldRev
    (fun state _ (groups : Array (List Nat)) =>
      groups.modify (cores.getD state 0) (state :: ·))
    (Array.replicate count [])
  ⟨groups, cores⟩

/--
The members of a group that have to leave it, in the order in which they are found: each remaining
member is compared with all later ones.
-/
def leaving (separate : Nat → Nat → Bool) : List Nat → List Nat
  | members => go members.length members []
where
  go : Nat → List Nat → List Nat → List Nat
    | 0, _, left => left.reverse
    | _, [], left => left.reverse
    | fuel + 1, first :: rest, left =>
      let leave := rest.filter (separate first)
      go fuel (rest.filter fun member => !leave.contains member) (leave.reverse ++ left)

/-- Divides the groups from `number` on; the members that leave a group form a new one. -/
def divideFrom (separate : Partition → Nat → Nat → Bool) :
    (fuel number : Nat) → Partition → Bool → Partition × Bool
  | 0, _, partition, divided => (partition, divided)
  | fuel + 1, number, partition, divided =>
    match partition.groups[number]? with
    | none => (partition, divided)
    | some members =>
      match leaving (separate partition) members with
      | [] => divideFrom separate fuel (number + 1) partition divided
      | left =>
        let new := partition.groups.size
        let groups := partition.groups.setIfInBounds number
          (members.filter fun member => !left.contains member)
        let groupOf := left.foldl (fun (groupOf : Array Nat) member =>
          groupOf.setIfInBounds member new) partition.groupOf
        divideFrom separate fuel (number + 1) ⟨groups.push left, groupOf⟩ true

/-- Divides all groups once, and tells whether any was divided. -/
def divide (separate : Partition → Nat → Nat → Bool) (partition : Partition) : Partition × Bool :=
  divideFrom separate (partition.groupOf.size + 1) 0 partition false

/-- Divides until no group has to be divided. -/
def divideFully (separate : Partition → Nat → Nat → Bool) : (fuel : Nat) → Partition → Partition
  | 0, partition => partition
  | fuel + 1, partition =>
    match partition.divide separate with
    | (partition, true) => divideFully separate fuel partition
    | (partition, false) => partition

end Partition

/-! ## When states must be told apart -/

/-- Whether two actions disagree, where going to states of one group counts as the same. -/
def Action.disagree (partition : Partition) : Action → Action → Bool
  | .shift left leftRepeats, .shift right rightRepeats =>
    partition.group left ≠ partition.group right || leftRepeats ≠ rightRepeats
  | left, right => left ≠ right

/-- Whether two lists of actions disagree. -/
def actionsDisagree (partition : Partition) : List Action → List Action → Bool
  | [], [] => false
  | left :: lefts, right :: rights =>
    left.disagree partition right || actionsDisagree partition lefts rights
  | _, _ => true

namespace Row

/-- The states after each token that can be read. -/
def shiftTargets (row : Row) : List (Nat × Nat) :=
  row.actions.toList.zipIdx.filterMap fun (actions, token) =>
    match actions.getLast? with
    | some (.shift target _) => some (token, target)
    | _ => none

end Row

/-- Whether two lists of transitions lead to different groups on a common symbol. -/
def leadApart (partition : Partition) : List (Nat × Nat) → List (Nat × Nat) → Bool
  | [], _ => false
  | _, [] => false
  | (leftSymbol, left) :: lefts, (rightSymbol, right) :: rights =>
    if leftSymbol < rightSymbol then leadApart partition lefts ((rightSymbol, right) :: rights)
    else if rightSymbol < leftSymbol then
      leadApart partition ((leftSymbol, left) :: lefts) rights
    else partition.group left ≠ partition.group right || leadApart partition lefts rights
termination_by lefts rights => lefts.length + rights.length

/-- What the comparison of states reads. -/
structure MergeContext where
  rows : Array Row
  tokenSets : Array TokenSet
  shiftTargets : Array (List (Nat × Nat))
  /-- For every token those that its search would disturb. -/
  disturbed : Array TokenSet

namespace MergeContext

/-- Whether a token would disturb one of the tokens of a state; the end of the text never does. -/
def disturbs (context : MergeContext) (token state : Nat) : Bool :=
  (context.disturbed.getD token .empty).meets (context.tokenSets.getD state .empty)

/-- Whether the actions on a token keep two states apart. -/
def tokenSeparates (context : MergeContext) (partition : Partition) (left right token : Nat)
    (leftActions rightActions : List Action) : Bool :=
  match leftActions, rightActions with
  | [], [] => false
  | _ :: _, [] => context.disturbs token right
  | [], _ :: _ => context.disturbs token left
  | _ :: _, _ :: _ => actionsDisagree partition leftActions rightActions

/-- Whether the actions keep two states apart. -/
def separates (context : MergeContext) (partition : Partition) (left right : Nat) : Bool :=
  let leftRow := context.rows.getD left default
  let rightRow := context.rows.getD right default
  leftRow.actions.size.any fun token _ =>
    context.tokenSeparates partition left right token
      (leftRow.actionsOn token) (rightRow.actionsOn token)

/-- Whether two states lead to different groups. -/
def leads (context : MergeContext) (partition : Partition) (left right : Nat) : Bool :=
  leadApart partition (context.shiftTargets.getD left []) (context.shiftTargets.getD right []) ||
    leadApart partition (context.rows.getD left default).transitions
      (context.rows.getD right default).transitions

/-- The context for an automaton; a keyword never disturbs the identifier, nor it a keyword. -/
def ofAutomaton (automaton : Automaton) (overlaps : Overlaps) (keywords : TokenSet) (word : Nat) :
    MergeContext where
  rows := automaton.rows
  tokenSets := automaton.tokenSets overlaps.count
  shiftTargets := automaton.rows.map Row.shiftTargets
  disturbed := Array.ofFn fun (token : Fin overlaps.count) =>
    .filterBelow overlaps.count fun other =>
      !(other == word && keywords.contains token) &&
        !(token.val == word && keywords.contains other) &&
        ((overlaps.get token other).conflicts || (overlaps.get token other).winsSame)

end MergeContext

/-! ## Rows of groups -/

namespace Action

/-- Changes the state that an action goes to. -/
def mapTarget (change : Nat → Nat) : Action → Action
  | shift target repetition => shift (change target) repetition
  | action => action

/-- The state that an action goes to. -/
def target? : Action → Option Nat
  | shift target _ => some target
  | _ => none

end Action

namespace Row

/-- Changes the states that a row leads to. -/
def mapTargets (row : Row) (change : Nat → Nat) : Row where
  actions := row.actions.map fun actions => actions.map (Action.mapTarget change)
  transitions := row.transitions.map fun (phrase, target) => (phrase, change target)

/-- The states that a row leads to. -/
def targets (row : Row) : List Nat :=
  row.actions.toList.flatMap (fun actions => actions.filterMap Action.target?) ++
    row.transitions.map Prod.snd

/-- The number of symbols on which a row has an entry. -/
def entryCount (row : Row) : Nat :=
  (row.actions.filter fun actions => !actions.isEmpty).size + row.transitions.length

/-- Joins transitions, in the order of the phrases; the later row wins. -/
def joinTransitions : List (Nat × Nat) → List (Nat × Nat) → List (Nat × Nat)
  | [], later => later
  | earlier, [] => earlier
  | (first, firstTarget) :: earlier, (second, secondTarget) :: later =>
    if first < second then
      (first, firstTarget) :: joinTransitions earlier ((second, secondTarget) :: later)
    else if second < first then
      (second, secondTarget) :: joinTransitions ((first, firstTarget) :: earlier) later
    else (second, secondTarget) :: joinTransitions earlier later
termination_by earlier later => earlier.length + later.length

/-- Joins the entries of two rows; where both have one, the later row wins. -/
def join (earlier later : Row) : Row where
  actions := earlier.actions.mapIdx fun token actions =>
    match later.actionsOn token with
    | [] => actions
    | actions => actions
  transitions := joinTransitions earlier.transitions later.transitions

/-- The state after a phrase. -/
def transition? (row : Row) (phrase : Nat) : Option Nat :=
  (row.transitions.find? fun transition => transition.1 == phrase).map Prod.snd

end Row

namespace Partition

/-- The rows of the groups. -/
def rows (partition : Partition) (rows : Array Row) : Array Row :=
  partition.groups.map fun members =>
    let members := members.map fun state => rows.getD state default
    match members with
    | [] => default
    | first :: rest => (rest.foldl Row.join first).mapTargets partition.group

end Partition

/-! ## Passing over states -/

namespace Plain

/-- The phrases that show under another kind somewhere. -/
def renamedPhrases (grammar : Plain) : List Nat :=
  grammar.phrases.toList.flatMap fun phrase =>
    phrase.productions.flatMap fun production =>
      production.steps.filterMap fun step =>
        match step.symbol, step.renamed with
        | .phrase index, some _ => some index
        | _, _ => none

/-- Whether building a phrase from one node leaves no trace in the tree. -/
def isTransparent (grammar : Plain) (renamed : List Nat) (phrase : Nat) : Bool :=
  let facts := grammar.phrases.getD phrase default
  facts.visibility != .named && !facts.grouping && !renamed.contains phrase

end Plain

namespace Row

/-- The phrase that a state builds from one node, if the state does nothing else. -/
def onlyPhrase (transparent : Nat → Bool) (row : Row) : Option Nat :=
  let actions := (row.actions.toList.flatMap id).filter (· != .shiftExtra)
  match actions with
  | .reduce phrase 1 0 0 :: rest =>
    if transparent phrase && rest.all (· == .reduce phrase 1 0 0) then some phrase else none
  | _ => none

end Row

/-- The state that is reached when states that only build a phrase are passed over. -/
def passOver (onlyPhrase : Array (Option Nat)) (row : Row) : (fuel target : Nat) → Nat
  | 0, target => target
  | fuel + 1, target =>
    match onlyPhrase.getD target none with
    | none => target
    | some phrase =>
      match row.transition? phrase with
      | none => target
      | some next => passOver onlyPhrase row fuel next

/-- Passes over all states that only build a phrase without a trace. -/
def passOverUnits (grammar : Plain) (rows : Array Row) : Array Row :=
  let renamed := grammar.renamedPhrases
  let onlyPhrase := rows.map (Row.onlyPhrase (grammar.isTransparent renamed))
  rows.map fun row => row.mapTargets (passOver onlyPhrase row grammar.phrases.size)

/-! ## Numbering -/

/-- Drops the states that no state leads to, except the first two. -/
def dropUnused (rows : Array Row) : Array Row :=
  let used := rows.foldl
    (fun used row => row.targets.foldl (fun (used : Array Bool) target =>
      used.setIfInBounds target true) used)
    ((Array.replicate rows.size false).mapIdx fun state _ => decide (state < 2))
  let numbers := (used.foldl
    (fun (numbers, next) isUsed =>
      (numbers.push next, if isUsed then next + 1 else next))
    ((#[] : Array Nat), 0)).1
  let kept := (List.range rows.size).filter fun state => used.getD state false
  (kept.map fun state =>
    (rows.getD state default).mapTargets fun target => numbers.getD target 0).toArray

/-- Puts the states with the most entries first, after the first two. -/
def orderBySize (rows : Array Row) : Array Row :=
  let sizes := rows.map Row.entryCount
  let order := 0 :: 1 :: ((List.range rows.size).drop 2).mergeSort fun left right =>
    sizes.getD right 0 ≤ sizes.getD left 0
  let numbers := order.zipIdx.foldl
    (fun (numbers : Array Nat) (state, number) => numbers.setIfInBounds state number)
    (Array.replicate rows.size 0)
  (order.map fun state =>
    (rows.getD state default).mapTargets fun target => numbers.getD target 0).toArray

/-- The rows of the merged automaton. -/
def mergedRows (grammar : Plain) (automaton : Automaton) (overlaps : Overlaps)
    (keywords : TokenSet) : Array Row :=
  let context := MergeContext.ofAutomaton automaton overlaps keywords grammar.word
  let coarse := (Partition.ofCores automaton.cores).divide context.separates
  let partition := coarse.1.divideFully context.leads automaton.rows.size
  orderBySize (dropUnused (passOverUnits grammar (partition.rows automaton.rows)))

end JavaFacts.Grammar
