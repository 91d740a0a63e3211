import JavaFacts.Yaml.Event

/-!
# Documents of YAML

A document is a row of events in which aliases stand for the nodes with their anchors. An anchor is
known by a number: that of the different anchors before it. If anchors come to share a number, the last
one counts.
-/

namespace JavaFacts.Yaml

/-- Why a document ends too early. -/
inductive LoadFault where
  | text (fault : Fault)
  | unknownAnchor (mark : Mark)
deriving DecidableEq, Repr, Inhabited

/-- What happens at a place of a document. -/
inductive NodeEvent where
  /-- There is nothing in the whole text. -/
  | nothing
  | reference (number : Nat)
  | scalar (scalar : Scalar)
  | sequenceStart (tag : Option Tag)
  | sequenceEnd
  | mappingStart (tag : Option Tag)
  | mappingEnd
deriving DecidableEq, Repr, Inhabited

/-- A document. -/
structure Document where
  events : Array (NodeEvent × Mark)
  /-- Where the node of an anchor begins, the last anchor first. -/
  targets : List (Nat × Nat)
  /-- Why the events end too early. -/
  fault : Option LoadFault
deriving Repr, Inhabited

namespace Document

/-- The document without events. -/
def empty : Document := ⟨#[], [], none⟩

/-- Adds an event. -/
def push (document : Document) (event : NodeEvent) (mark : Mark) : Document :=
  { document with events := document.events.push (event, mark) }

/-- Anchors by their names. -/
abbrev Anchors := List (String × Nat)

/-- Gives a name to the next event. -/
def addAnchor (anchor : Option String) (anchors : Anchors) (document : Document) :
    Anchors × Document :=
  match anchor with
  | none => (anchors, document)
  | some name =>
    let number := anchors.length
    ((name, number) :: anchors.filter (·.1 != name),
      { document with targets := (number, document.events.size) :: document.targets })

/-- The first document of a text, and whether there is more after it. -/
def first (fault : Option Fault) : List Event → Anchors → Document → Document × Bool
  | [], _, document => ({ document with fault := fault.map .text }, false)
  | event :: rest, anchors, document =>
    match event.kind with
    | .streamEnd =>
      (if document.events.isEmpty then document.push .nothing event.mark else document, false)
    | .documentStart => first fault rest anchors document
    | .documentEnd => (document, rest.head?.map Event.kind != some .streamEnd)
    | .reference name =>
      match anchors.lookup name with
      | some number => first fault rest anchors (document.push (.reference number) event.mark)
      | none => ({ document with fault := some (.unknownAnchor event.mark) }, false)
    | .scalar anchor scalar =>
      let (anchors, document) := addAnchor anchor anchors document
      first fault rest anchors (document.push (.scalar scalar) event.mark)
    | .sequenceStart anchor tag =>
      let (anchors, document) := addAnchor anchor anchors document
      first fault rest anchors (document.push (.sequenceStart tag) event.mark)
    | .sequenceEnd => first fault rest anchors (document.push .sequenceEnd event.mark)
    | .mappingStart anchor tag =>
      let (anchors, document) := addAnchor anchor anchors document
      first fault rest anchors (document.push (.mappingStart tag) event.mark)
    | .mappingEnd => first fault rest anchors (document.push .mappingEnd event.mark)

/-- The first document of a text, and whether there is more after it. -/
def ofText (text : String) : Document × Bool :=
  let (events, fault) := Event.ofText text
  first fault events.toList [] .empty

end Document

end JavaFacts.Yaml
