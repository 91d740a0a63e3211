import JavaFacts.Facts.Extraction
import JavaFacts.Parsing.Concrete
import JavaFacts.Source.Parse

/-!
# Analysing a source

Parsing with the grammar of Java, and drawing the facts.
-/

namespace JavaFacts

/-- The concrete tree of a Java text. -/
def javaTree (text : String) : ConcreteTree := Parsing.concreteTree Grammar.Table.java text

/-- Parses a Java source. -/
def parse (source : String) : Except SourceFault SourceUnit :=
  SourceUnit.parseWith javaTree source

/-- Draws the facts from a source, where `concrete` makes the concrete tree of a text. -/
def analyzeWith (concrete : String → ConcreteTree) (source : String) : Except SourceFault Facts :=
  match SourceUnit.parseWith concrete source with
  | .error fault => .error fault
  | .ok unit =>
    match unit.extract with
    | .error defect => .error (.malformed defect)
    | .ok facts => .ok facts

/-- Draws the facts from a Java source. -/
def analyze (source : String) : Except SourceFault Facts := analyzeWith javaTree source

end JavaFacts
