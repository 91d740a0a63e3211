import JavaFacts.Grammar.Java
import JavaFacts.Grammar.Quotient
import JavaFacts.Grammar.Scanner

/-!
# Parse tables

A parse table holds all that the parser looks up: actions and transitions by state, the scanner of
each state, and how tokens and phrases show in the tree.
-/

namespace JavaFacts.Grammar

/-- How the nodes of a symbol show in the tree. -/
structure SymbolLook where
  kind : String
  visible : Bool
  named : Bool
deriving Inhabited

/-- All that the parser looks up. -/
structure Table where
  /-- The actions by state and token; those at the end of the text come last. -/
  actions : Array (Array (List Action))
  /-- The next state by state and phrase; zero where there is none. -/
  transitions : Array (Array Nat)
  /-- The first state of the scanner that is used in each state. -/
  scanStarts : Array Nat
  scanner : Scanner
  alphabet : Alphabet
  tokenLooks : Array SymbolLook
  phraseLooks : Array SymbolLook
  /-- How the children of a node show, by the number of the label. -/
  labels : Array (Array ChildLabel)
  /-- The token of identifiers. -/
  word : Nat
deriving Inhabited

namespace Table

/-- The number of tokens, which also stands for the end of the text. -/
def tokenCount (table : Table) : Nat := table.tokenLooks.size

/-- The actions of a state on a token. -/
def actionsOn (table : Table) (state token : Nat) : List Action :=
  (table.actions.getD state #[]).getD token []

/-- The state after a phrase. -/
def afterPhrase (table : Table) (state phrase : Nat) : Nat :=
  (table.transitions.getD state #[]).getD phrase 0

/-- The state after a token, if it can be read; zero where there is none. -/
def afterToken (table : Table) (state token : Nat) : Nat :=
  match (table.actionsOn state token).getLast? with
  | some (.shift target _) => target
  | some .shiftExtra => state
  | _ => 0

/-- The look of a symbol with a name. -/
def look (name : String) (visibility : Visibility) : SymbolLook :=
  ⟨name, visibility.isVisible, visibility == .named⟩

/-- The transitions of a row as an array. -/
def transitionArray (phraseCount : Nat) (row : Row) : Array Nat :=
  row.transitions.foldl (fun states (phrase, target) => states.setIfInBounds phrase target)
    (Array.replicate phraseCount 0)

/-- Puts the table together. -/
def assemble (grammar : Plain) (alphabet : Alphabet) (items : Items) (rows : Array Row)
    (modes : Modes) (scanner : Scanner) : Table where
  actions := rows.map Row.actions
  transitions := rows.map (transitionArray grammar.phrases.size)
  scanStarts := modes.modeOf.map fun mode => scanner.starts.getD mode 0
  scanner := scanner
  alphabet := alphabet
  tokenLooks := grammar.tokens.map fun token => look token.name token.visibility
  phraseLooks := grammar.phrases.map fun phrase => look phrase.name phrase.visibility
  labels := items.labels.map List.toArray
  word := grammar.word

/-- The table of an automaton whose keywords and overlaps are known. -/
def ofAutomaton (grammar : Plain) (alphabet : Alphabet) (readers : Array Reader) (items : Items)
    (automaton : Automaton) (overlaps : Overlaps) (company : Company) (keywords : TokenSet) :
    Table :=
  let resuming := resumingTokens overlaps company keywords grammar.word
  let automaton := automaton.resumeOn grammar.tokens.size resuming
  let rows := mergedRows grammar automaton overlaps keywords
  let modes := Modes.ofRows (Modes.apart overlaps company) keywords grammar.word rows
  let scanner := Scanner.ofSets readers alphabet modes.sets keywords
  assemble grammar alphabet items rows modes scanner

/-- The table of a grammar. -/
def ofGrammar (grammar : Grammar) : Table :=
  let alphabet := Alphabet.ofGrammar grammar
  let readers := Reader.ofGrammar grammar alphabet
  let plain := Plain.ofGrammar grammar
  let first := plain.firstTokens
  let items := Items.ofGrammar plain first
  let automaton := Automaton.ofGrammar plain first items
  let overlaps := Overlaps.ofGrammar plain first plain.lastTokens readers
  let sets := automaton.tokenSets plain.tokens.size
  ofAutomaton plain alphabet readers items automaton overlaps
    (Company.ofSets plain.tokens.size sets) (keywords overlaps sets plain.word)

/-- The table of Java. -/
def java : Table := ofGrammar Grammar.java

end Table

end JavaFacts.Grammar
