import JavaFacts.Grammar.Basic

/-!
# Plain grammars

In a plain grammar every construct is a phrase with a list of productions, and a production is a
sequence of steps, each over one symbol. A grammar is made plain in three moves: a repetition becomes
a phrase of its own that doubles itself, choices become separate productions, and the uses of an
inlined construct are replaced by its productions.
-/

namespace JavaFacts.Grammar

/-- A symbol of a production: a token or a phrase, by its place in the grammar. -/
inductive Symbol where
  | token (index : Nat)
  | phrase (index : Nat)
deriving BEq, DecidableEq, Hashable, Repr, Inhabited

namespace Symbol

/-- Tokens come before phrases, and each kind in the order of the grammar. -/
def compare : Symbol → Symbol → Ordering
  | token left, token right => Ord.compare left right
  | token _, phrase _ => .lt
  | phrase _, token _ => .gt
  | phrase left, phrase right => Ord.compare left right

end Symbol

/-- One symbol of a production, with what its rule says about it. -/
structure Step where
  symbol : Symbol
  precedence : Option Int
  associativity : Option Associativity
  /-- The kind under which the node of the step shows, if not its own. -/
  renamed : Option String
  /-- The field of the parent that the node of the step belongs to. -/
  field : Option String
deriving BEq, Hashable, Inhabited

/-- One way to build a phrase. -/
structure Production where
  /-- The weight that the production adds to a reading. -/
  weight : Int
  steps : List Step
deriving BEq, Hashable, Inhabited

/-- The weight with the larger absolute value, the first if they are equally large. -/
def strongerWeight (left right : Int) : Int :=
  if left.natAbs < right.natAbs then right else left

/-- A construct with the productions that build it. -/
structure Phrase where
  name : String
  visibility : Visibility
  inlined : Bool
  grouping : Bool
  productions : List Production
deriving Inhabited

/-! ## Repetitions -/

namespace Rule

/-- The phrases made for repetitions so far, each with the body that it repeats. -/
abbrev Repetitions := Array (Rule × Construct)

/--
Replaces every repetition in a rule by a phrase. Equal bodies share one phrase, which is named
after the construct `owner` where the body occurs first; `count` is the number of the phrases
named after the owner so far.
-/
def extractRepetitions (owner : String) : Rule → StateM (Nat × Repetitions) Rule
  | nothing => pure nothing
  | token name => pure (token name)
  | ref name => pure (ref name)
  | sequence first second => do
    let first ← first.extractRepetitions owner
    let second ← second.extractRepetitions owner
    pure (sequence first second)
  | choice left right => do
    let left ← left.extractRepetitions owner
    let right ← right.extractRepetitions owner
    pure (choice left right)
  | field name body => do pure (field name (← body.extractRepetitions owner))
  | renamed kind body => do pure (renamed kind (← body.extractRepetitions owner))
  | level precedence associativity body => do
    pure (level precedence associativity (← body.extractRepetitions owner))
  | dynamic weight body => do pure (dynamic weight (← body.extractRepetitions owner))
  | many1 body => do
    let body ← body.extractRepetitions owner
    let (count, repetitions) ← get
    match repetitions.find? (fun repetition => repetition.1 == body) with
    | some (_, construct) => pure (ref construct.name)
    | none =>
      let name := owner ++ "_repeat" ++ toString (count + 1)
      let doubled := choice (sequence (ref name) (ref name)) body
      set (count + 1, repetitions.push (body, ⟨name, .auxiliary, false, false, doubled⟩))
      pure (ref name)

end Rule

/-- Replaces every repetition of the constructs by a phrase; the new constructs come last. -/
def expandRepetitions (constructs : Array Construct) : Array Construct :=
  let expand := fun (construct : Construct) => do
    modify fun (_, repetitions) => (0, repetitions)
    let rule ← construct.rule.extractRepetitions construct.name
    pure { construct with rule := rule }
  let (plain, _, repetitions) := (constructs.mapM expand : StateM (Nat × Rule.Repetitions) _).run (0, #[])
  plain ++ repetitions.map Prod.snd

/-! ## Productions -/

/-- The places of the tokens and constructs of a grammar, by name. -/
structure Places where
  tokens : String → Option Nat
  phrases : String → Option Nat

namespace Rule

/-- A production of one step. -/
def single (context : Step) (symbol : Option Symbol) : List Production :=
  match symbol with
  | some symbol => [⟨0, [{ context with symbol := symbol }]⟩]
  | none => []

/--
The productions of a rule without repetitions. The context holds what the enclosing rules say about
every step; the innermost word counts.
-/
def productions (places : Places) (context : Step) : Rule → List Production
  | nothing => [⟨0, []⟩]
  | token name => single context ((places.tokens name).map .token)
  | ref name => single context ((places.phrases name).map .phrase)
  | sequence first second =>
    (first.productions places context).flatMap fun front =>
      (second.productions places context).map fun back =>
        ⟨strongerWeight front.weight back.weight, front.steps ++ back.steps⟩
  | choice left right => left.productions places context ++ right.productions places context
  | many1 body => body.productions places context
  | field name body => body.productions places { context with field := some name }
  | renamed kind body => body.productions places { context with renamed := some kind }
  | level precedence associativity body =>
    body.productions places
      { context with
        precedence := some precedence
        associativity := associativity <|> context.associativity }
  | dynamic weight body =>
    (body.productions places context).map fun production =>
      { production with weight := strongerWeight weight production.weight }

end Rule

/-- The context in which nothing has been said about a step. -/
def Step.unmarked : Step := ⟨.token 0, none, none, none, none⟩

/-- The phrase of a construct, with the productions of its rule, each once. -/
def Construct.toPhrase (places : Places) (construct : Construct) : Phrase where
  name := construct.name
  visibility := construct.visibility
  inlined := construct.inlined
  grouping := construct.grouping
  productions := (construct.rule.productions places Step.unmarked).eraseDups

/-! ## Inlining -/

namespace Step

/--
The step of an inlined production in the place of the step that used it: a new kind or field of the
use goes to every step.
-/
def inPlaceOf (use step : Step) : Step :=
  { step with
    renamed := use.renamed <|> step.renamed
    field := use.field <|> step.field }

/-- The last step of an inlined production takes the level of the use if it has none. -/
def withLevelOf (use step : Step) : Step :=
  { step with
    precedence := step.precedence <|> use.precedence
    associativity := step.associativity <|> use.associativity }

/-- The productions that may stand for a step: itself, or the productions of its inlined phrase. -/
def expansions (phrases : Array Phrase) (step : Step) : List Production :=
  match step.symbol with
  | .token _ => [⟨0, [step]⟩]
  | .phrase index =>
    match phrases[index]? with
    | none => [⟨0, [step]⟩]
    | some phrase =>
      if phrase.inlined then
        phrase.productions.map fun production =>
          let steps := production.steps.map (inPlaceOf step)
          match steps.reverse with
          | [] => ⟨production.weight, []⟩
          | last :: earlier => ⟨production.weight, (withLevelOf step last :: earlier).reverse⟩
      else [⟨0, [step]⟩]

end Step

/-- The productions that arise when every use of an inlined phrase is expanded. -/
def Production.expansions (phrases : Array Phrase) (production : Production) :
    List Production :=
  production.steps.foldr
    (fun step rest =>
      (step.expansions phrases).flatMap fun front =>
        rest.map fun back =>
          ⟨strongerWeight front.weight back.weight, front.steps ++ back.steps⟩)
    [⟨production.weight, []⟩]

/-- Replaces every use of an inlined phrase in the productions of a phrase. -/
def Phrase.expandInlined (phrases : Array Phrase) (phrase : Phrase) : Phrase :=
  { phrase with
    productions := (phrase.productions.flatMap (·.expansions phrases)).eraseDups }

/-! ## Plain grammars -/

/-- A grammar whose rules are productions without inlined phrases. -/
structure Plain where
  tokens : Array Token
  phrases : Array Phrase
  /-- The tokens that may stand anywhere. -/
  extras : List Nat
  /-- The token of identifiers. -/
  word : Nat
  /-- For every phrase the fields that its nodes hold for the parent, in alphabetical order. -/
  heldFields : Array (List String)
deriving Inhabited

namespace Plain

/-- Adds a name to an ordered list of names, unless it is there. -/
def insertName (name : String) : List String → List String
  | [] => [name]
  | first :: rest =>
    if name = first then first :: rest
    else if name < first then name :: first :: rest
    else first :: insertName name rest

/--
The fields that the step adds to those of its phrase: its own field, and those that a phrase
without a node of its own holds. The fields of a grouping stay with the constructs that it groups.
-/
def stepFields (phrases : Array Phrase) (held : Array (List String)) (step : Step) :
    List String :=
  step.field.toList ++
    match step.symbol with
    | .token _ => []
    | .phrase index =>
      match phrases[index]? with
      | none => []
      | some phrase =>
        if step.renamed.isSome || phrase.visibility.isVisible || phrase.grouping then []
        else held.getD index []

/-- One round of collecting the fields of all phrases. -/
def collectFields (phrases : Array Phrase) (held : Array (List String)) :
    Array (List String) :=
  phrases.mapIdx fun index phrase =>
    phrase.productions.foldl
      (fun fields production =>
        production.steps.foldl
          (fun fields step =>
            (stepFields phrases held step).foldl (fun fields name => insertName name fields)
              fields)
          fields)
      (held.getD index [])

/-- Collects the fields of all phrases until a round adds none. -/
def closeFields (phrases : Array Phrase) : (fuel : Nat) → Array (List String) →
    Array (List String)
  | 0, held => held
  | fuel + 1, held =>
    let next := collectFields phrases held
    if next == held then held else closeFields phrases fuel next

/-- The plain form of a grammar. -/
def ofGrammar (grammar : Grammar) : Plain :=
  let constructs := expandRepetitions grammar.constructs
  let tokenPlace := fun name => grammar.tokens.findIdx? (fun token => token.name == name)
  let places : Places :=
    ⟨tokenPlace, fun name => constructs.findIdx? (fun construct => construct.name == name)⟩
  let phrases := constructs.map (·.toPhrase places)
  { tokens := grammar.tokens
    phrases := phrases.map (·.expandInlined phrases)
    extras := grammar.extras.filterMap tokenPlace
    word := (tokenPlace grammar.word).getD 0
    heldFields :=
      closeFields phrases (phrases.size + 1) (Array.replicate phrases.size []) }

/--
The fields that a step passes on from a node that does not show. They are looked up below that node.
-/
def inheritedFields (grammar : Plain) (step : Step) : List String :=
  match step.symbol with
  | .token _ => []
  | .phrase index =>
    match grammar.phrases[index]? with
    | none => []
    | some phrase =>
      if phrase.visibility.isVisible then [] else grammar.heldFields.getD index []

end Plain

end JavaFacts.Grammar
