import JavaFacts.Grammar.Item

/-!
# Closures of item sets

A state of the automaton is a set of items, each with the tokens that may follow its production. If
an item expects a phrase next, the productions of that phrase may begin at the same place, and so on
for the phrases that they begin with. What one phrase adds in this way depends on the item only
through the tokens that follow it, so it is worked out once for every phrase.
-/

namespace JavaFacts.Grammar

/-- A set of items, in increasing order, each with the tokens that may follow its production. -/
abbrev ItemSet := List (Nat × TokenSet)

namespace ItemSet

/-- The items of two sets; where both have an item, its tokens are joined. -/
def merge : ItemSet → ItemSet → ItemSet
  | [], right => right
  | left, [] => left
  | (leftItem, leftTokens) :: left, (rightItem, rightTokens) :: right =>
    if leftItem < rightItem then
      (leftItem, leftTokens) :: merge left ((rightItem, rightTokens) :: right)
    else if rightItem < leftItem then
      (rightItem, rightTokens) :: merge ((leftItem, leftTokens) :: left) right
    else (leftItem, leftTokens ∪ rightTokens) :: merge left right
termination_by left right => left.length + right.length

/-- Adds one item to a set. -/
def insert (set : ItemSet) (item : Nat) (tokens : TokenSet) : ItemSet :=
  match set with
  | [] => [(item, tokens)]
  | (first, firstTokens) :: rest =>
    if item < first then (item, tokens) :: (first, firstTokens) :: rest
    else if first < item then (first, firstTokens) :: insert rest item tokens
    else (first, firstTokens ∪ tokens) :: rest

end ItemSet

/--
What follows the productions of a phrase that begins where another phrase begins: the given tokens,
and, if `inherits` is set, also whatever follows that other phrase.
-/
structure Following where
  tokens : TokenSet
  inherits : Bool
deriving BEq, Inhabited

namespace Following

def join (left right : Following) : Following :=
  ⟨left.tokens ∪ right.tokens, left.inherits || right.inherits⟩

end Following

/-- A phrase at the beginning of a production, and the tokens after it unless it is all of it. -/
structure LeftCorner where
  phrase : Nat
  after : Option TokenSet
deriving BEq

namespace Plain

/-- The phrases at the beginning of the productions of a phrase. -/
def leftCorners (first : EndTokens) (phrase : Phrase) : List LeftCorner :=
  (phrase.productions.filterMap fun production =>
    match production.steps with
    | [] => none
    | step :: later =>
      match step.symbol with
      | .token _ => none
      | .phrase index => some ⟨index, later.head?.map fun next => first.ofSymbol next.symbol⟩).eraseDups

end Plain

/-- The phrases that may begin where a phrase begins, with what follows them. -/
abbrev Reach := Array (Option Following)

namespace Reach

def add (reach : Reach) (phrase : Nat) (following : Following) : Reach :=
  match reach.getD phrase none with
  | none => reach.setIfInBounds phrase (some following)
  | some known => reach.setIfInBounds phrase (some (known.join following))

/-- One round of adding the phrases at the beginning of those that are there. -/
def spread (corners : Array (List LeftCorner)) (reach : Reach) : Reach :=
  corners.size.fold
    (fun phrase _ reach =>
      match reach.getD phrase none with
      | none => reach
      | some following =>
        (corners.getD phrase []).foldl
          (fun reach corner =>
            reach.add corner.phrase
              (match corner.after with
              | some tokens => ⟨tokens, false⟩
              | none => following))
          reach)
    reach

/-- Adds phrases until a round adds nothing. -/
def close (corners : Array (List LeftCorner)) : (fuel : Nat) → Reach → Reach
  | 0, reach => reach
  | fuel + 1, reach =>
    let next := spread corners reach
    if next == reach then reach else close corners fuel next

/-- Everything that may begin where a phrase begins. -/
def ofPhrase (corners : Array (List LeftCorner)) (phrase : Nat) : Reach :=
  let empty : Reach := Array.replicate corners.size none
  close corners (corners.size + 1) (empty.add phrase ⟨.empty, true⟩)

end Reach

/-- For every phrase the items that it adds to a set that expects it, in increasing order. -/
abbrev Additions := Array (List (Nat × Following))

namespace Additions

/-- The items before the productions of the phrases that are reached. -/
def ofReach (items : Items) (reach : Reach) : List (Nat × Following) :=
  let all := (List.range reach.size).flatMap fun phrase =>
    match reach.getD phrase none with
    | none => []
    | some following => (items.initial.getD phrase []).map fun item => (item, following)
  all.mergeSort fun left right => left.1 ≤ right.1

def ofGrammar (grammar : Plain) (first : EndTokens) (items : Items) : Additions :=
  let corners := grammar.phrases.map (Plain.leftCorners first)
  Array.ofFn fun (phrase : Fin corners.size) => ofReach items (Reach.ofPhrase corners phrase)

/-- What an item adds to a set in which the given tokens follow it. -/
def ofItem (additions : Additions) (facts : ItemFacts) (tokens : TokenSet) : ItemSet :=
  match facts.next with
  | some (.phrase phrase) =>
    let after := facts.afterNext.getD tokens
    (additions.getD phrase []).map fun (item, following) =>
      (item, if following.inherits then following.tokens ∪ after else following.tokens)
  | _ => []

/-- The closure of an item set. -/
def close (additions : Additions) (items : Items) (kernel : ItemSet) : ItemSet :=
  kernel.foldl
    (fun set (item, tokens) => set.merge (additions.ofItem (items.facts.getD item default) tokens))
    kernel

end Additions

end JavaFacts.Grammar
