import JavaFacts.Text.Quoted

/-!
# Sections and formats of a report

A report consists of sections and is written in a format. Both are chosen by name; the name `all`
chooses every section.
-/

namespace JavaFacts.Report

/-- A part of a report. -/
inductive Section where
  | declarations
  | signatures
  | receivers
deriving DecidableEq, Repr, Inhabited

namespace Section

/-- All sections in their order. -/
def all : List Section := [declarations, signatures, receivers]

def name : Section → String
  | declarations => "declarations"
  | signatures => "signatures"
  | receivers => "receivers"

def title : Section → String
  | declarations => "Method Declarations"
  | signatures => "Method Signatures"
  | receivers => "Method Receivers"

/-- The sections that a name chooses. -/
def named? (text : String) : Option (List Section) :=
  if text = "all" then some all else (all.find? (·.name == text)).map fun found => [found]

/-- The chosen sections, each once and in their order. -/
def arranged (chosen : List Section) : List Section := all.filter chosen.contains

end Section

/-- How a report is written. -/
inductive Format where
  | text
  | json
deriving DecidableEq, Repr, Inhabited

namespace Format

def all : List Format := [text, json]

def name : Format → String
  | text => "text"
  | json => "json"

/-- The format with a name. -/
def named? (text : String) : Option Format := all.find? (·.name == text)

end Format

/-- A choice that cannot be made. -/
inductive ChoiceFault where
  | noSection (name : String)
  | noFormat (name : String)
deriving DecidableEq, Repr, Inhabited

/-- The fault in words. -/
def ChoiceFault.message : ChoiceFault → String
  | noSection name =>
    "invalid section " ++ Text.Quoted.encode name ++
      ", must be 'declarations', 'signatures', 'receivers' or 'all'"
  | noFormat name =>
    "invalid format " ++ Text.Quoted.encode name ++ ", must be 'text' or 'json'"

/-- The sections that a name chooses, or why there are none. -/
def Section.ofName (name : String) : Except ChoiceFault (List Section) :=
  match named? name with
  | some sections => .ok sections
  | none => .error (.noSection name)

/-- The format with a name, or why there is none. -/
def Format.ofName (name : String) : Except ChoiceFault Format :=
  match named? name with
  | some format => .ok format
  | none => .error (.noFormat name)

end JavaFacts.Report
