import JavaFacts.Report.Basic

/-!
# Reports as text

A text report has a block of labelled lines for each fact, under the title of its section. Headers,
errors and titles can be set off by the style sequences of a terminal.
-/

namespace JavaFacts.Report

/-! ## Styles -/

/-- How a line is set off. -/
inductive Style where
  | header
  | error
  | title
deriving DecidableEq, Repr, Inhabited

namespace Style

/-- The sequence that begins a style. -/
def opening : Style → String
  | header => "\x1b[1m"
  | error => "\x1b[31m"
  | title => "\x1b[1;36m"

/-- The sequence that ends all styles. -/
def reset : String := "\x1b[0m"

/-- A text in a style; where the text itself ends all styles, the style begins anew. -/
def wrap (style : Style) (text : String) : String :=
  style.opening ++ text.replace reset (reset ++ style.opening) ++ reset

/-- A text in a style if colors are wanted. -/
def apply (style : Style) (color : Bool) (text : String) : String :=
  if color then style.wrap text else text

end Style

/-! ## Texts -/

/-- What a text report shows. -/
structure TextOptions where
  sections : List Section
  /-- Whether styles are used. -/
  color : Bool
  /-- Whether every file has a header. -/
  headers : Bool
deriving DecidableEq, Repr, Inhabited

/-- The lines of a section below its title. -/
def Section.body (facts : Facts) : Section → String
  | declarations =>
    String.join (facts.declarations.toList.map fun declaration => declaration.describe ++ "\n")
  | signatures => String.join (facts.calls.toList.map fun call => call.describe ++ "\n")
  | receivers =>
    String.join (facts.receivers.entries.toList.map fun (receiver, names) =>
      receiver ++ " -> " ++ String.intercalate ", " names.toList ++ "\n") ++ "\n"

/-- The header of a file. -/
def FileReport.header (report : FileReport) (options : TextOptions) : String :=
  if options.headers then
    Style.header.apply options.color ("== " ++ report.path ++ " ==") ++ "\n"
  else ""

/-- What is said on a file below its header. -/
def FileReport.body (report : FileReport) (options : TextOptions) : String :=
  match report.outcome with
  | .error fault => Style.error.apply options.color ("error: " ++ fault.message) ++ "\n\n"
  | .ok facts =>
    String.join (options.sections.map fun chosen =>
      Style.title.apply options.color chosen.title ++ "\n" ++ chosen.body facts)

/-- The text report on files. -/
def text (options : TextOptions) (reports : List FileReport) : String :=
  String.join (reports.map fun report => report.header options ++ report.body options)

end JavaFacts.Report
