import JavaFacts.Grammar.IndexSet
import JavaFacts.Grammar.Plain

/-!
# First and last tokens

Which tokens a text of a phrase can begin with, and which it can end with. No phrase but the first
stands for the empty text, so the first step of a production alone decides how it begins.
-/

namespace JavaFacts.Grammar

/-- For every phrase the tokens at one end of its texts. -/
abbrev EndTokens := Array TokenSet

namespace EndTokens

/-- The tokens at the end of a symbol. -/
def ofSymbol (ends : EndTokens) : Symbol → TokenSet
  | .token index => .single index
  | .phrase index => ends.getD index .empty

/-- One round of collecting, where `outermost` picks the step at the end in question. -/
def collect (outermost : List Step → Option Step) (phrases : Array Phrase) (ends : EndTokens) :
    EndTokens :=
  phrases.mapIdx fun index phrase =>
    phrase.productions.foldl
      (fun tokens production =>
        match outermost production.steps with
        | some step => tokens ∪ ends.ofSymbol step.symbol
        | none => tokens)
      (ends.getD index .empty)

/-- Collects until a round adds nothing. -/
def close (outermost : List Step → Option Step) (phrases : Array Phrase) :
    (fuel : Nat) → EndTokens → EndTokens
  | 0, ends => ends
  | fuel + 1, ends =>
    let next := collect outermost phrases ends
    if next == ends then ends else close outermost phrases fuel next

end EndTokens

namespace Plain

/-- For every phrase the tokens that its texts can begin with. -/
def firstTokens (grammar : Plain) : EndTokens :=
  EndTokens.close List.head? grammar.phrases (grammar.phrases.size + 1)
    (Array.replicate grammar.phrases.size .empty)

/-- For every phrase the tokens that its texts can end with. -/
def lastTokens (grammar : Plain) : EndTokens :=
  EndTokens.close List.getLast? grammar.phrases (grammar.phrases.size + 1)
    (Array.replicate grammar.phrases.size .empty)

end Plain

end JavaFacts.Grammar
