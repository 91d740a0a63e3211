import JavaFacts.Facts.Basic
import JavaFacts.Report.Section
import JavaFacts.Source.Fault

/-!
# Reports on files

The report on a file holds the facts that were drawn from it, or the reason why there are none.
-/

namespace JavaFacts.Report

/-- What became of a file. -/
structure FileReport where
  path : String
  outcome : Except SourceFault Facts

namespace FileReport

/-- Whether there are facts. -/
def isOk (report : FileReport) : Bool :=
  match report.outcome with
  | .ok _ => true
  | .error _ => false

end FileReport

end JavaFacts.Report
