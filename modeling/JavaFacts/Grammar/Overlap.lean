import JavaFacts.Grammar.Ends
import JavaFacts.Grammar.Reader

/-!
# Overlapping tokens

Two tokens can be looked for at the same place only if the text of one does not change what the
other would have been. The overlap of a token with another records how their texts meet when both
are read together, from the side of the first.
-/

namespace JavaFacts.Grammar

/-- How the texts of one token meet those of another. -/
structure Overlap where
  /-- The token ends inside a text of the other, and ending is preferred. -/
  endsInside : Bool
  /-- The token goes on where the other could end, and going on is preferred. -/
  goesOn : Bool
  /-- It goes on with a character that could also begin what follows the other. -/
  goesOnIntoNext : Bool
  /-- The token ends where separators before the other may still come. -/
  endsInSeparators : Bool
  /-- Both have a text in common, and the token is preferred. -/
  winsSame : Bool
  /-- The token has a text that the other cannot begin with. -/
  readsOther : Bool
deriving BEq, Inhabited

namespace Overlap

def none : Overlap := ⟨false, false, false, false, false, false⟩

/-- Whether looking for the token changes what is read where the other stands. -/
def conflicts (overlap : Overlap) : Bool :=
  overlap.goesOnIntoNext || overlap.endsInSeparators || overlap.winsSame

/-- Whether the texts meet in any way. -/
def meets (overlap : Overlap) : Bool :=
  overlap.endsInSeparators || overlap.endsInside || overlap.winsSame || overlap.goesOn

end Overlap

/-! ## Reading two tokens together -/

/-- The overlaps of two tokens, from either side. -/
structure OverlapPair where
  left : Overlap
  right : Overlap
deriving Inhabited

/-- Which of two tokens is meant. -/
inductive Side where
  | left
  | right
deriving BEq, DecidableEq

namespace Side

def other : Side → Side
  | left => right
  | right => left

end Side

namespace OverlapPair

/-- Changes the overlap of one side. -/
def modify (pair : OverlapPair) (side : Side) (change : Overlap → Overlap) : OverlapPair :=
  match side with
  | .left => { pair with left := change pair.left }
  | .right => { pair with right := change pair.right }

end OverlapPair

/-- A token that is read together with another. -/
structure Contestant where
  index : Nat
  reader : Reader
  /-- The character classes with which what follows the token can begin. -/
  classesAfter : IndexSet
deriving Inhabited

/-- Two tokens that are read together; the left one comes first in the lexicon. -/
structure Contest where
  left : Contestant
  right : Contestant

namespace Contest

def contestant (contest : Contest) : Side → Contestant
  | .left => contest.left
  | .right => contest.right

def completion (contest : Contest) (side : Side) : Completion :=
  ⟨(contest.contestant side).index, (contest.contestant side).reader.token⟩

/-- The step of both readers on a character class; a reader that cannot go on has no state. -/
structure JointEdge where
  left : Option ReadEdge
  right : Option ReadEdge

namespace JointEdge

def edge (joint : JointEdge) : Side → Option ReadEdge
  | .left => joint.left
  | .right => joint.right

def goesOn (joint : JointEdge) (side : Side) : Bool := (joint.edge side).isSome

/-- Whether the character can only be a separator. -/
def skips (joint : JointEdge) : Bool :=
  (joint.left.toList ++ joint.right.toList).all ReadEdge.skips

/-- The higher precedence of the two steps. -/
def precedence (joint : JointEdge) : Int :=
  match joint.left, joint.right with
  | some left, some right => max left.precedence right.precedence
  | some left, none => left.precedence
  | none, some right => right.precedence
  | none, none => 0

end JointEdge

/--
What is noted where a token may end. Where separators may still come, only that is noted. Where both
end, the preferred one wins the common text; the result is the token that would be read.
-/
def noteEnds (contest : Contest) (pair : OverlapPair) (leftEnds rightEnds separated : Bool) :
    OverlapPair × Option Side :=
  if separated then
    if leftEnds then (pair.modify .left ({ · with endsInSeparators := true }), none)
    else if rightEnds then (pair.modify .right ({ · with endsInSeparators := true }), none)
    else (pair, none)
  else
    match leftEnds, rightEnds with
    | true, true =>
      let winner : Side :=
        if (contest.completion .left).isPreferredTo (contest.completion .right) then .left
        else .right
      (pair.modify winner ({ · with winsSame := true }), some winner)
    | true, false => (pair, some .left)
    | false, true => (pair, some .right)
    | false, false => (pair, none)

/-- What is noted where one token could end and only the other goes on. -/
def noteStep (contest : Contest) (ended : Side) (separated : Bool) (characterClass : Nat)
    (joint : JointEdge) (pair : OverlapPair) : OverlapPair :=
  if joint.goesOn ended.other && !joint.goesOn ended then
    if (contest.completion ended).yieldsTo joint.precedence joint.skips separated true then
      pair.modify ended.other fun overlap =>
        { overlap with
          goesOn := true
          goesOnIntoNext := overlap.goesOnIntoNext ||
            (contest.contestant ended).classesAfter.contains characterClass }
    else pair.modify ended ({ · with endsInside := true })
  else pair

/-- The exploration of the states of both readers. -/
structure Search where
  pair : OverlapPair
  pending : List (Nat × Nat)
  seen : List (Nat × Nat)

/-- Visits the states after a step, or notes which token goes on alone. -/
def Search.visit (search : Search) (joint : JointEdge) : Search :=
  match joint.left, joint.right with
  | some left, some right =>
    let state := (left.target, right.target)
    if search.seen.contains state then search
    else { search with pending := state :: search.pending, seen := state :: search.seen }
  | some _, none =>
    { search with pair := search.pair.modify .left ({ · with readsOther := true }) }
  | none, some _ =>
    { search with pair := search.pair.modify .right ({ · with readsOther := true }) }
  | none, none => search

/-- Explores one pair of states. -/
def explore (contest : Contest) (search : Search) (leftState rightState : Nat) : Search :=
  let left := contest.left.reader.state leftState
  let right := contest.right.reader.state rightState
  let separated := left.separated || right.separated
  let (pair, ended) := contest.noteEnds search.pair left.accepts right.accepts separated
  left.edges.size.fold
    (fun characterClass _ search =>
      let joint : JointEdge :=
        ⟨left.edges.getD characterClass none, right.edges.getD characterClass none⟩
      let pair :=
        match ended with
        | some side => contest.noteStep side separated characterClass joint search.pair
        | none => search.pair
      { search with pair := pair }.visit joint)
    { search with pair := pair }

/-- Explores all pairs of states that can be reached. -/
def run (contest : Contest) : (fuel : Nat) → Search → OverlapPair
  | 0, search => search.pair
  | fuel + 1, search =>
    match search.pending with
    | [] => search.pair
    | (leftState, rightState) :: pending =>
      run contest fuel (contest.explore { search with pending := pending } leftState rightState)

/-- The overlaps of two tokens. -/
def overlaps (contest : Contest) : OverlapPair :=
  let fuel := contest.left.reader.states.size * contest.right.reader.states.size + 1
  contest.run fuel ⟨⟨.none, .none⟩, [(0, 0)], [(0, 0)]⟩

end Contest

/-! ## All overlaps of a grammar -/

/-- The overlaps of every token with every other. -/
structure Overlaps where
  count : Nat
  table : Array Overlap
deriving Inhabited

namespace Overlaps

/-- The overlap of a token with another, from the side of the first. -/
def get (overlaps : Overlaps) (token other : Nat) : Overlap :=
  overlaps.table.getD (token * overlaps.count + other) .none

/-- The tokens that can follow each token, where the extras may stand anywhere. -/
def followingTokens (grammar : Plain) (first last : EndTokens) : Array TokenSet :=
  let count := grammar.tokens.size
  let pairs := grammar.phrases.toList.flatMap fun phrase =>
    phrase.productions.flatMap fun production =>
      production.steps.zip (production.steps.drop 1)
  let following := pairs.foldl
    (fun (following : Array TokenSet) (left, right) =>
      let next := first.ofSymbol right.symbol
      ((last.ofSymbol left.symbol).members count).foldl
        (fun following token => following.modify token (· ∪ next)) following)
    (Array.replicate count .empty)
  let extras := grammar.extras.foldl IndexSet.insert .empty
  following.mapIdx fun token next =>
    if extras.contains token then .below count else next ∪ extras

/-- The overlaps of the tokens of a grammar. -/
def ofGrammar (grammar : Plain) (first last : EndTokens) (readers : Array Reader) : Overlaps :=
  let count := readers.size
  let firstClasses := readers.map Reader.firstClasses
  let contestants := (followingTokens grammar first last).mapIdx fun index following =>
    ({ index := index
       reader := readers.getD index default
       classesAfter := (following.members count).foldl
        (fun classes token => classes ∪ firstClasses.getD token .empty) .empty } : Contestant)
  let table := count.fold
    (fun right _ (table : Array Overlap) =>
      right.fold
        (fun left _ (table : Array Overlap) =>
          let pair := Contest.overlaps
            ⟨contestants.getD left default, contestants.getD right default⟩
          (table.setIfInBounds (left * count + right) pair.left).setIfInBounds
            (right * count + left) pair.right)
        table)
    (Array.replicate (count * count) Overlap.none)
  ⟨count, table⟩

end Overlaps

end JavaFacts.Grammar
