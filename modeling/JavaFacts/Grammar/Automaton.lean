import JavaFacts.Grammar.Closure

/-!
# The automaton of a grammar

The states of the automaton are sets of items that look one token ahead. In each state every token
has a list of actions. Where more than one action is possible, precedence and associativity decide
as far as they can; what they leave open stays in the list, and the parser follows all of it.
-/

namespace JavaFacts.Grammar

/-- What a parser may do with the next token. -/
inductive Action where
  /-- Read the token and go to a state; a repetition that could also continue later is marked. -/
  | shift (target : Nat) (repetition : Bool)
  /-- Read a token that may stand anywhere. -/
  | shiftExtra
  /-- Build a phrase from the last nodes. -/
  | reduce (phrase count : Nat) (weight : Int) (label : Nat)
  /-- The text is complete. -/
  | accept
  /-- Skip what cannot be read. -/
  | recover
deriving BEq, DecidableEq, Inhabited

/-- The actions and transitions of a state. -/
structure Row where
  /-- The actions by token; those at the end of the text come last. -/
  actions : Array (List Action)
  /-- The states after a phrase, in the order of the phrases. -/
  transitions : List (Nat × Nat)
deriving Inhabited

namespace Row

def actionsOn (row : Row) (token : Nat) : List Action := row.actions.getD token []

end Row

/-! ## Conflicts -/

/-- The actions on one token while a state is made, with what is known about the reductions. -/
structure Cell where
  actions : List Action
  /-- The precedence of the reductions. -/
  precedence : Option Int
  hasLeft : Bool
  hasRight : Bool
  hasNeither : Bool
  /-- Whether more than one action is possible. -/
  conflict : Bool
deriving Inhabited

namespace Cell

def empty : Cell := ⟨[], none, false, false, false, false⟩

/-- An absent precedence counts as zero. -/
def comparePrecedence (left right : Option Int) : Ordering :=
  compare (left.getD 0) (right.getD 0)

/-- Notes precedence and associativity of a reduction. -/
def note (cell : Cell) (item : ItemFacts) : Cell :=
  { cell with
    precedence := item.precedence
    hasLeft := cell.hasLeft || item.associativity == some .left
    hasRight := cell.hasRight || item.associativity == some .right
    hasNeither := cell.hasNeither || item.associativity == none }

/-- Adds a reduction: of two with different precedence the lower one is dropped. -/
def addReduction (cell : Cell) (item : ItemFacts) (action : Action) : Cell :=
  if cell.actions.isEmpty then { cell with actions := [action] }.note item
  else
    match comparePrecedence item.precedence cell.precedence with
    | .gt => { empty with actions := [action] }.note item
    | .eq => { cell with actions := cell.actions ++ [action], conflict := true }.note item
    | .lt => cell

/-- Adds the action that reads the token, after all reductions. -/
def addShift (cell : Cell) (target : Nat) : Cell :=
  { cell with
    conflict := cell.conflict || !cell.actions.isEmpty
    actions := cell.actions ++ [.shift target false] }

end Cell

/-- What takes part in a conflict. -/
structure Contenders where
  /-- The phrases of the items that take part. -/
  phrases : List Nat
  /-- The precedences of the items that would read the token. -/
  shiftPrecedences : List (Option Int)

namespace Contenders

def addPhrase (contenders : Contenders) (phrase : Option Nat) : Contenders :=
  match phrase with
  | none => contenders
  | some phrase => { contenders with phrases := contenders.phrases.insert phrase }

/-- The items of a state that take part in a conflict about a token. -/
def ofItems (items : Items) (first : EndTokens) (set : ItemSet) (token : Nat) : Contenders :=
  set.foldl
    (fun contenders (item, tokens) =>
      let facts := items.facts.getD item default
      match facts.next with
      | some symbol =>
        if 0 < facts.position ∧ (first.ofSymbol symbol).contains token then
          let contenders := contenders.addPhrase facts.phrase
          { contenders with shiftPrecedences := facts.precedence :: contenders.shiftPrecedences }
        else contenders
      | none =>
        if tokens.contains token then contenders.addPhrase facts.phrase else contenders)
    ⟨[], []⟩

end Contenders

namespace Cell

/-- Only the last action, which reads the token. -/
def keepShift (cell : Cell) : List Action := cell.actions.getLast?.toList

/-- All but the last action. -/
def keepReductions (cell : Cell) : List Action := cell.actions.dropLast

/--
The actions that remain of a conflict. A repetition that conflicts only with itself reads on. Else
the higher precedence wins, and among equals the associativity of the reductions, if they agree.
-/
def resolve (cell : Cell) (phrases : Array Phrase) (contenders : Contenders) : List Action :=
  match cell.actions.getLast? with
  | some (.shift target _) =>
    let isRepetition :=
      match contenders.phrases with
      | [phrase] => (phrases.getD phrase default).visibility == Visibility.auxiliary
      | _ => false
    if isRepetition then cell.keepReductions ++ [Action.shift target true]
    else
      let compared := contenders.shiftPrecedences.map (comparePrecedence · cell.precedence)
      let higher := compared.contains .gt
      let lower := compared.contains .lt
      if higher && !lower then cell.keepShift
      else if lower && !higher then cell.keepReductions
      else if higher then cell.actions
      else if cell.hasLeft && !cell.hasNeither && !cell.hasRight then cell.keepReductions
      else if cell.hasRight && !cell.hasNeither && !cell.hasLeft then cell.keepShift
      else cell.actions
  | _ => cell.actions

end Cell

/-! ## States -/

/-- The automaton as far as it has been made. -/
structure Automaton where
  /-- The item sets of the states, before closing. -/
  kernels : Array ItemSet
  /-- The number of the items of a state, without what follows them. -/
  cores : Array Nat
  rows : Array Row
deriving Inhabited

namespace Automaton

/-- What the construction of the automaton reads. -/
structure Context where
  grammar : Plain
  first : EndTokens
  items : Items
  additions : Additions

/-- The automaton under construction, with the numbers of the kernels and cores met so far. -/
structure Builder where
  kernels : Array ItemSet
  cores : Array Nat
  rows : Array Row
  kernelNumbers : Std.HashMap ItemSet Nat
  coreNumbers : Std.HashMap (List Nat) Nat

namespace Builder

def empty : Builder := ⟨#[], #[], #[], ∅, ∅⟩

/-- The number of the state with a kernel, which is made if there is none yet. -/
def state (kernel : ItemSet) : StateM Builder Nat := do
  let builder ← get
  match builder.kernelNumbers[kernel]? with
  | some number => pure number
  | none =>
    let number := builder.kernels.size
    let core := kernel.map Prod.fst
    let coreNumber := builder.coreNumbers.getD core builder.coreNumbers.size
    set
      { builder with
        kernels := builder.kernels.push kernel
        cores := builder.cores.push coreNumber
        kernelNumbers := builder.kernelNumbers.insert kernel number
        coreNumbers := builder.coreNumbers.insert core coreNumber }
    pure number

end Builder

/-- The item sets after each symbol, and the reductions, of one state. -/
structure Sorted where
  afterToken : Array ItemSet
  afterPhrase : Array ItemSet
  cells : Array Cell

/-- Adds one item of a closed set. -/
def Sorted.add (context : Context) (sorted : Sorted) (item : Nat) (tokens : TokenSet) : Sorted :=
  let facts := context.items.facts.getD item default
  match facts.next with
  | some (.token index) =>
    { sorted with
      afterToken := sorted.afterToken.modify index (·.insert facts.successor tokens) }
  | some (.phrase index) =>
    { sorted with
      afterPhrase := sorted.afterPhrase.modify index (·.insert facts.successor tokens) }
  | none =>
    let action :=
      match facts.phrase with
      | none => .accept
      | some phrase => .reduce phrase facts.position facts.weight facts.label
    { sorted with
      cells := (tokens.members sorted.cells.size).foldl
        (fun cells token => cells.modify token (·.addReduction facts action)) sorted.cells }

/-- Makes the row of a state from its closed item set. -/
def row (context : Context) (set : ItemSet) : StateM Builder Row := do
  let tokenCount := context.grammar.tokens.size
  let phraseCount := context.grammar.phrases.size
  let sorted : Sorted :=
    set.foldl (fun sorted (item, tokens) => sorted.add context item tokens)
      ⟨Array.replicate tokenCount [], Array.replicate phraseCount [],
        Array.replicate (tokenCount + 1) Cell.empty⟩
  let cells ← (List.range tokenCount).foldlM
    (fun (cells : Array Cell) token => do
      match sorted.afterToken.getD token [] with
      | [] => pure cells
      | kernel =>
        let target ← Builder.state kernel
        pure (cells.modify token (·.addShift target)))
    sorted.cells
  let transitions ← (List.range phraseCount).filterMapM fun phrase => do
    match sorted.afterPhrase.getD phrase [] with
    | [] => pure none
    | kernel => pure (some (phrase, ← Builder.state kernel))
  let actions := cells.mapIdx fun token cell =>
    if cell.conflict then
      cell.resolve context.grammar.phrases
        (Contenders.ofItems context.items context.first set token)
    else cell.actions
  let actions := context.grammar.extras.foldl
    (fun (actions : Array (List Action)) extra =>
      actions.modify extra fun known => if known.isEmpty then [.shiftExtra] else known)
    actions
  pure ⟨actions, transitions⟩

/-- Makes the rows of all states, from `number` on. -/
def build (context : Context) : (fuel number : Nat) → StateM Builder Unit
  | 0, _ => pure ()
  | fuel + 1, number => do
    let kernel? := (← get).kernels[number]?
    match kernel? with
    | none => pure ()
    | some kernel =>
      let row ← row context (context.additions.close context.items kernel)
      modify fun builder => { builder with rows := builder.rows.push row }
      build context fuel (number + 1)

/-- The most states that an automaton may have. -/
def stateLimit : Nat := 65536

/--
The automaton of a grammar. State 0 has no items: the parser is in it while it skips what it cannot
read. State 1 is the start.
-/
def ofGrammar (grammar : Plain) (first : EndTokens) (items : Items) : Automaton :=
  let context : Context := ⟨grammar, first, items, Additions.ofGrammar grammar first items⟩
  let make : StateM Builder Unit := do
    let _ ← Builder.state []
    let _ ← Builder.state [(items.start, .single grammar.tokens.size)]
    build context stateLimit 0
  let builder := (make.run Builder.empty).2
  ⟨builder.kernels, builder.cores, builder.rows⟩

end Automaton

end JavaFacts.Grammar
