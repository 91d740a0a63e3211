import JavaFacts.Grammar.Company

/-!
# Scanners

Which tokens are looked for depends on the state of the parser. States whose tokens do not disturb
one another share a mode, and each mode has a scanner that reads all its tokens together and stops
at the preferred one.
-/

namespace JavaFacts.Grammar

/-! ## Modes -/

/-- The modes made so far, and the mode of every state so far. -/
structure Modes where
  sets : Array TokenSet
  modeOf : Array Nat
deriving Inhabited

namespace Modes

/-- For every token those that must not be looked for together with it, unless they must be. -/
def apart (overlaps : Overlaps) (company : Company) : Array TokenSet :=
  Array.ofFn fun (token : Fin overlaps.count) =>
    .filterBelow overlaps.count fun other =>
      let overlap := overlaps.get token other
      overlap.conflicts || overlap.endsInside ||
        (!company.together token other && (overlap.meets || (overlaps.get other token).meets))

/-- The tokens to look for in a state: the identifier stands for all keywords. -/
def wanted (tokenCount : Nat) (keywords : TokenSet) (word : Nat) (row : Row) : TokenSet :=
  (row.tokenSet (tokenCount + 1)).members (tokenCount + 1)
    |>.foldl (fun set token => set.insert (if keywords.contains token then word else token)) .empty

/-- Whether two sets of tokens can be looked for together. -/
def compatible (apart : Array TokenSet) (left right : TokenSet) : Bool :=
  ((left.difference right).members apart.size).all fun token =>
    let others := if left.contains token then right else left
    !(apart.getD token .empty).meets others

/-- Adds a state to the first mode that suits it, or to a new one. -/
def add (apart : Array TokenSet) (modes : Modes) (set : TokenSet) : Modes :=
  match modes.sets.findIdx? (compatible apart set) with
  | some mode =>
    { sets := modes.sets.modify mode (· ∪ set)
      modeOf := modes.modeOf.push mode }
  | none => ⟨modes.sets.push set, modes.modeOf.push modes.sets.size⟩

/-- The modes of the states of an automaton. -/
def ofRows (apart : Array TokenSet) (keywords : TokenSet) (word : Nat) (rows : Array Row) :
    Modes :=
  rows.foldl (fun modes row => modes.add apart (wanted apart.size keywords word row)) ⟨#[], #[]⟩

end Modes

/-! ## Scanning several tokens together -/

/-- A step of a scanner. -/
structure ScanEdge where
  target : Nat
  /-- Whether the character is a separator, so that the token has not begun yet. -/
  skips : Bool
deriving BEq, Inhabited

/-- A state of a scanner. -/
structure ScanState where
  /-- The token that may end here. -/
  accepts : Option Nat
  /-- Whether the end of the text is read here. -/
  acceptsEnd : Bool
  /-- The steps by character class. -/
  edges : Array (Option ScanEdge)
deriving Inhabited

/-- The states of all scanners of a grammar. -/
structure Scanner where
  states : Array ScanState
  /-- The first state of each mode. -/
  starts : Array Nat
  /-- The first state of the scanner of keywords. -/
  keywordStart : Nat
deriving Inhabited

namespace Scanner

/-- The tokens that are being read, each in a state of its reader; and whether the text may end. -/
abbrev Position := List (Nat × Nat) × Bool

/-- The steps of all readers on a character class. -/
structure JointEdge where
  targets : List (Nat × Nat)
  precedence : Int
  skips : Bool
deriving BEq

/-- The joint step of all readers on a character class, if any of them goes on. -/
def joint (readers : Array Reader) (reading : List (Nat × Nat)) (characterClass : Nat) :
    Option JointEdge :=
  reading.foldr
    (fun (token, state) later =>
      match (readers.getD token default).edge? state characterClass with
      | none => later
      | some edge =>
        some <| match later with
          | none => ⟨[(token, edge.target)], edge.precedence, edge.skips⟩
          | some later =>
            ⟨(token, edge.target) :: later.targets, max edge.precedence later.precedence,
              edge.skips && later.skips⟩)
    none

/-- The preferred one of the tokens that may end at a position. -/
def completion? (readers : Array Reader) (reading : List (Nat × Nat)) : Option Completion :=
  reading.foldl
    (fun best (token, state) =>
      let reader := readers.getD token default
      if (reader.state state).accepts then
        let completion : Completion := ⟨token, reader.token⟩
        match best with
        | some known => if known.isPreferredTo completion then best else some completion
        | none => some completion
      else best)
    none

/-- Whether separators may still come before one of the tokens. -/
def separated (readers : Array Reader) (reading : List (Nat × Nat)) : Bool :=
  reading.any fun (token, state) => ((readers.getD token default).state state).separated

/-- The positions met so far, with their numbers. -/
structure Builder where
  positions : Array Position
  numbers : Std.HashMap Position Nat

namespace Builder

/-- The number of a position, which is added if it is new. -/
def number (position : Position) : StateM Builder Nat := do
  let builder ← get
  match builder.numbers[position]? with
  | some number => pure number
  | none =>
    set
      { builder with
        positions := builder.positions.push position
        numbers := builder.numbers.insert position builder.positions.size : Builder }
    pure builder.positions.size

end Builder

/--
The step from a position on a character class. Reading on must be preferred to the token that may
end. The character with number zero is read only where it is told apart from the other characters.
-/
def edge (readers : Array Reader) (alphabet : Alphabet) (position : Position)
    (completion? : Option Completion) (separated : Bool) (characterClass : Nat) :
    StateM Builder (Option ScanEdge) := do
  match joint readers position.1 characterClass with
  | none => pure none
  | some step =>
    let goesOn :=
      match completion? with
      | none => true
      | some completion =>
        completion.yieldsTo step.precedence step.skips separated
          (step.targets.any fun (token, _) => token != completion.index)
    let isHidden := characterClass == alphabet.zeroClass &&
      joint readers position.1 alphabet.lastClass == some step
    if goesOn && !isHidden then
      let target ← Builder.number (step.targets, position.2 && step.skips)
      pure (some ⟨target, step.skips⟩)
    else pure none

/-- Makes the states of all positions, from `number` on. -/
def build (readers : Array Reader) (alphabet : Alphabet) :
    (fuel number : Nat) → Array ScanState → StateM Builder (Array ScanState)
  | 0, _, states => pure states
  | fuel + 1, number, states => do
    let position? := (← get).positions[number]?
    match position? with
    | none => pure states
    | some position =>
      let completion? := completion? readers position.1
      let separated := separated readers position.1
      let edges ← (Array.range alphabet.count).mapM
        (edge readers alphabet position completion? separated)
      let state : ScanState := ⟨completion?.map Completion.index, position.2, edges⟩
      build readers alphabet fuel (number + 1) (states.push state)

/-- The most states that a scanner may have. -/
def stateLimit : Nat := 65536

/-- The position before any token of a set. -/
def startPosition (tokenCount : Nat) (set : TokenSet) : Position :=
  ((set.members tokenCount).map fun token => (token, 0), set.contains tokenCount)

/-- The scanners for the given sets of tokens and for the keywords. -/
def ofSets (readers : Array Reader) (alphabet : Alphabet) (sets : Array TokenSet)
    (keywords : TokenSet) : Scanner :=
  let make : StateM Builder Scanner := do
    let starts ← sets.mapM fun set => Builder.number (startPosition readers.size set)
    let keywordStart ← Builder.number (startPosition readers.size keywords)
    let states ← build readers alphabet stateLimit 0 #[]
    pure ⟨states, starts, keywordStart⟩
  (make.run ⟨#[], ∅⟩).1

end Scanner

end JavaFacts.Grammar
