import JavaFacts.Grammar.Automaton
import JavaFacts.Grammar.Overlap

/-!
# Tokens in company

Two tokens keep company when some state of the automaton has actions on both, so that both are
looked for at the same place. From the company that tokens keep follows which of them are keywords,
read as special cases of the identifier, and on which of them the parser may resume after it has
skipped something.
-/

namespace JavaFacts.Grammar

namespace Row

/-- The tokens on which a state has an action. -/
def tokenSet (row : Row) (tokenCount : Nat) : TokenSet :=
  .filterBelow tokenCount fun token => !(row.actionsOn token).isEmpty

end Row

/-- For every token the tokens that keep it company. -/
abbrev Company := Array TokenSet

namespace Company

/-- The company of all tokens in states with the given token sets. -/
def ofSets (tokenCount : Nat) (sets : Array TokenSet) : Company :=
  sets.foldl
    (fun company set =>
      (set.members tokenCount).foldl
        (fun company token => company.modify token (· ∪ set)) company)
    (Array.replicate tokenCount .empty)

/-- Whether two tokens are looked for at the same place. -/
def together (company : Company) (token other : Nat) : Bool :=
  (company.getD token .empty).contains other

end Company

namespace Automaton

/-- The token sets of all states. -/
def tokenSets (automaton : Automaton) (tokenCount : Nat) : Array TokenSet :=
  automaton.rows.map fun row => row.tokenSet tokenCount

end Automaton

/-! ## Keywords -/

/-- The tokens whose texts are all identifiers, and which are preferred to the identifier. -/
def keywordCandidates (overlaps : Overlaps) (word : Nat) : List Nat :=
  (List.range overlaps.count).filter fun token =>
    (overlaps.get token word).winsSame && !(overlaps.get token word).readsOther

/--
Whether a candidate, wherever it is looked for without the identifier, meets the other tokens just as
the identifier would. The company is that in states without the identifier.
-/
def standsForWord (overlaps : Overlaps) (withoutWord : Company) (candidates : TokenSet)
    (word token : Nat) : Bool :=
  (List.range overlaps.count).all fun other =>
    candidates.contains other || !withoutWord.together token other ||
      overlaps.get token other == overlaps.get word other

/-- The keywords: candidates that stand for the identifier and share no text with another one. -/
def keywords (overlaps : Overlaps) (sets : Array TokenSet) (word : Nat) : TokenSet :=
  let candidates := keywordCandidates overlaps word
  let candidateSet := candidates.foldl IndexSet.insert .empty
  let distinct := candidates.filter fun token =>
    candidates.all fun other => other == token || !(overlaps.get other token).winsSame
  let accepted := distinct.filter <| standsForWord overlaps
    (Company.ofSets overlaps.count (sets.filter fun set => !set.contains word)) candidateSet word
  accepted.foldl IndexSet.insert .empty

/-! ## Resuming after an error -/

/-- Whether a token can be looked for anywhere without cutting short a longer token. -/
def isFreelyRead (overlaps : Overlaps) (company : Company) (token : Nat) : Bool :=
  (List.range overlaps.count).all fun other =>
    let overlap := overlaps.get token other
    other == token || company.together token other ||
      !((overlap.goesOnIntoNext || overlap.endsInSeparators) &&
        !(overlaps.get other token).endsInSeparators)

/-- The tokens on which the parser may resume. -/
def resumingTokens (overlaps : Overlaps) (company : Company) (keywords : TokenSet) (word : Nat) :
    TokenSet :=
  let free := (List.range overlaps.count).filter (isFreelyRead overlaps company)
  let freeSet := free.foldl IndexSet.insert .empty
  .filterBelow overlaps.count fun token =>
    freeSet.contains token || keywords.contains token || token == word ||
      free.all fun other =>
        company.together token other || !(overlaps.get token other).conflicts

namespace Automaton

/-- Lets state 0 resume on the given tokens and at the end of the text. -/
def resumeOn (automaton : Automaton) (tokenCount : Nat) (tokens : TokenSet) : Automaton :=
  { automaton with
    rows := automaton.rows.modify 0 fun row =>
      { row with
        actions := row.actions.mapIdx fun token known =>
          if token = tokenCount then [.recover]
          else if known.isEmpty && tokens.contains token then [.recover]
          else known } }

end Automaton

end JavaFacts.Grammar
