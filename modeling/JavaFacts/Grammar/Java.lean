import JavaFacts.Grammar.Java.Annotations
import JavaFacts.Grammar.Java.Declarations
import JavaFacts.Grammar.Java.Expressions
import JavaFacts.Grammar.Java.Literals
import JavaFacts.Grammar.Java.Methods
import JavaFacts.Grammar.Java.Modules
import JavaFacts.Grammar.Java.Statements
import JavaFacts.Grammar.Java.Switches
import JavaFacts.Grammar.Java.Tokens
import JavaFacts.Grammar.Java.Types

/-!
# The grammar of Java

The grammar in full: the lexicon and the constructs, in the order in which they are preferred.
Separators are the six blank characters of ASCII; comments may stand anywhere.
-/

namespace JavaFacts.Grammar

open JavaFacts.Text

/-- The constructs of the language. -/
def Java.constructs : List Construct :=
  Java.literals ++ Java.expressions ++ Java.switches ++ Java.statements ++ Java.annotations ++
    Java.modules ++ Java.declarations ++ Java.types ++ Java.methods

/-- The grammar of Java. -/
def java : Grammar where
  tokens := Java.tokens.toArray
  constructs := Java.constructs.toArray
  separators := CodePoints.interval 0x09 0x0D ∪ CodePoints.single ' '
  extras := ["line_comment", "block_comment"]
  word := "identifier"

end JavaFacts.Grammar
