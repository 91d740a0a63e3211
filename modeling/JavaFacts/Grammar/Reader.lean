import JavaFacts.Grammar.Alphabet

/-!
# Readers

The reader of a token is the finite automaton that reads the separators before the token and the
token itself. As long as only separators have been read, both more separators and the beginning of
the token may come. A state is what is left to read of the token, with a note on whether separators
may still come.
-/

namespace JavaFacts.Grammar

/-- A step of a reader on a character of some class. -/
structure ReadEdge where
  target : Nat
  /-- Whether the character can only be a separator. -/
  skips : Bool
  /-- The precedence of the step against the end of another token. -/
  precedence : Int
deriving BEq, Inhabited

/-- A state of a reader. -/
structure ReadState where
  /-- Whether the token may end here. -/
  accepts : Bool
  /-- Whether separators may still come. -/
  separated : Bool
  /-- The steps by character class. -/
  edges : Array (Option ReadEdge)
deriving Inhabited

/-- The reader of one token; it starts in state 0. -/
structure Reader where
  token : Token
  states : Array ReadState
deriving Inhabited

namespace Reader

/-- What is left to read: whether separators may still come, and the rest of the token. -/
abbrev Rest := Bool × Regex IndexSet

/-- The rests met so far, with their numbers. -/
structure Builder where
  rests : Array Rest
  numbers : Std.HashMap Rest Nat

namespace Builder

/-- The number of a rest, which is added if it is new. -/
def number (rest : Rest) : StateM Builder Nat := do
  let builder ← get
  match builder.numbers[rest]? with
  | some number => pure number
  | none =>
    set
      { builder with
        rests := builder.rests.push rest
        numbers := builder.numbers.insert rest builder.rests.size : Builder }
    pure builder.rests.size

end Builder

/-- The step from a rest on a character class. -/
def edge (pattern : Regex IndexSet) (separators : IndexSet) (precedence : Int) (rest : Rest)
    (characterClass : Nat) : StateM Builder (Option ReadEdge) := do
  let skipping := rest.1 && separators.contains characterClass
  let later := rest.2.residual (·.contains characterClass)
  if skipping then
    let target ← Builder.number (true, pattern.either later)
    pure (some ⟨target, later.isNever, if later.isNever then 0 else max 0 precedence⟩)
  else if later.isNever then pure none
  else
    let target ← Builder.number (false, later)
    pure (some ⟨target, false, precedence⟩)

/-- Makes the states of all rests, from `number` on. -/
def build (classCount : Nat) (pattern : Regex IndexSet) (separators : IndexSet)
    (precedence : Int) : (fuel number : Nat) → Array ReadState →
    StateM Builder (Array ReadState)
  | 0, _, states => pure states
  | fuel + 1, number, states => do
    let rest? := (← get).rests[number]?
    match rest? with
    | none => pure states
    | some rest =>
      let edges ← (Array.range classCount).mapM (edge pattern separators precedence rest)
      let state : ReadState := ⟨rest.2.acceptsEmpty, rest.1, edges⟩
      build classCount pattern separators precedence fuel (number + 1) (states.push state)

/-- The most states that a reader may have. -/
def stateLimit : Nat := 4096

/-- The reader of a token over the classes of an alphabet. -/
def ofToken (classCount : Nat) (classesOf : Text.CodePoints → IndexSet) (separators : IndexSet)
    (token : Token) : Reader :=
  let pattern := token.pattern.map classesOf
  let start : Rest := (!token.immediate, pattern)
  let make : StateM Builder (Array ReadState) := do
    let _ ← Builder.number start
    build classCount pattern separators token.precedence stateLimit 0 #[]
  ⟨token, (make.run ⟨#[], ∅⟩).1⟩

/-- The readers of all tokens of a grammar. -/
def ofGrammar (grammar : Grammar) (alphabet : Alphabet) : Array Reader :=
  let sets := (grammar.separators ::
    grammar.tokens.toList.flatMap fun token => token.pattern.sets).eraseDups
  let classes : Std.HashMap Text.CodePoints IndexSet :=
    sets.foldl (fun classes set => classes.insert set (alphabet.classesOf set)) ∅
  let classesOf := fun set => classes.getD set .empty
  grammar.tokens.map (ofToken alphabet.count classesOf (classesOf grammar.separators))

/-- A state of a reader by its number. -/
def state (reader : Reader) (number : Nat) : ReadState := reader.states.getD number default

/-- The step of a reader from a state on a character class. -/
def edge? (reader : Reader) (number characterClass : Nat) : Option ReadEdge :=
  (reader.state number).edges.getD characterClass none

/-- The character classes with which a reader can begin. -/
def firstClasses (reader : Reader) : IndexSet :=
  let edges := (reader.state 0).edges
  .filterBelow edges.size fun characterClass => (edges.getD characterClass none).isSome

end Reader

/-! ## Preferences -/

/-- A token that ends at some place, with its precedence. -/
structure Completion where
  index : Nat
  token : Token
deriving Inhabited

namespace Completion

/--
Of two tokens that end at the same place the one with the higher precedence is preferred, then the
more specific one, then the earlier one.
-/
def isPreferredTo (left right : Completion) : Bool :=
  if left.token.precedence ≠ right.token.precedence then
    left.token.precedence > right.token.precedence
  else if left.token.specificity ≠ right.token.specificity then
    left.token.specificity > right.token.specificity
  else left.index < right.index

/--
Whether reading on is preferred to ending the token here. Reading on needs at least the precedence
of the token. With equal precedence a separator ends the token, and so does a step by which another
token goes on, where separators may still come.
-/
def yieldsTo (completion : Completion) (precedence : Int) (skips separated : Bool)
    (anotherGoesOn : Bool) : Bool :=
  if precedence < completion.token.precedence then false
  else if precedence = completion.token.precedence then
    !skips && !(separated && anotherGoesOn)
  else true

end Completion

end JavaFacts.Grammar
