import JavaFacts.Yaml.Scanner

/-!
# Events of YAML

The events of a text say how its documents are built: collections begin and end, and scalars and
aliases stand in them. Events are found by a stack of goals: what has to be read next is on top, and
what is to follow it lies below.

Main definition: `Event.ofText`, the events of a text up to the first fault.
-/

namespace JavaFacts.Yaml

/-- A scalar of a document. -/
structure Scalar where
  tag : Option Tag
  text : String
  style : ScalarStyle
deriving DecidableEq, Repr, Inhabited

/-- What happens at a place. -/
inductive EventKind where
  | streamEnd
  | documentStart
  | documentEnd
  | reference (name : String)
  | scalar (anchor : Option String) (scalar : Scalar)
  | sequenceStart (anchor : Option String) (tag : Option Tag)
  | sequenceEnd
  | mappingStart (anchor : Option String) (tag : Option Tag)
  | mappingEnd
deriving DecidableEq, Repr, Inhabited

/-- An event and where it begins. -/
structure Event where
  kind : EventKind
  mark : Mark
deriving DecidableEq, Repr, Inhabited

/-- What has to be read. A goal within a collection knows where that begins. -/
inductive Goal where
  /-- A document; the first one needs no mark. -/
  | document (first : Bool)
  /-- What a document holds after its mark. -/
  | documentContent
  | documentEnd
  | blockNode
  | blockSequence (opening : Mark)
  /-- A sequence that is not indented more than the mapping around it. -/
  | indentlessSequence
  | blockMappingKey (opening : Mark)
  | blockMappingValue (opening : Mark)
  | flowSequence (opening : Mark) (first : Bool)
  /-- A single pair in a sequence, from its key on. -/
  | flowPairKey
  | flowPairValue
  | flowPairEnd
  | flowMappingKey (opening : Mark) (first : Bool)
  | flowMappingValue (opening : Mark)
  /-- The value that a key without a colon does not have. -/
  | flowMappingNoValue (opening : Mark)
deriving DecidableEq, Repr, Inhabited

namespace Event

/-- The tokens that are left, the goals, and the beginnings of tags that handles stand for. -/
structure Parser where
  tokens : List Token
  /-- Why the tokens end. -/
  fault : Option Fault
  goals : List Goal
  handles : List (String × Tag)

/-- A step that reads an event. It stops without a fault if the tokens end without one. -/
abbrev Parsing := StateT Parser (Except (Option Fault))

/-- The next token. -/
def peek : Parsing Token := do
  let parser ← get
  match parser.tokens with
  | token :: _ => return token
  | [] => throw parser.fault

/-- Passes over a token. -/
def skip : Parsing Unit := modify fun parser => { parser with tokens := parser.tokens.drop 1 }

/-- Passes over a token, and gives the next one. -/
def skipAndPeek : Parsing Token := do
  skip
  peek

/-- Puts a goal on top. -/
def push (goal : Goal) : Parsing Unit :=
  modify fun parser => { parser with goals := goal :: parser.goals }

/-- Stops with a problem at a place. -/
def refuse {α : Type} (problem : Problem) (mark : Mark) (context : Option (Context × Mark)) :
    Parsing α :=
  throw (some (.broken problem mark context))

/-- A scalar that is not written. -/
def emptyScalar (mark : Mark) : Event := ⟨.scalar none ⟨none, "", .plain⟩, mark⟩

/-! ## Nodes -/

/-- The anchor and the tag of a node. -/
structure Properties where
  anchor : Option String := none
  tag : Option (String × Tag) := none
  tagMark : Mark := .start
  start : Mark

/-- Reads the anchor and the tag of a node in either order. -/
def readProperties : Parsing Properties := do
  let token ← peek
  match token.kind with
  | .anchor name =>
    let next ← skipAndPeek
    match next.kind with
    | .tag handle suffix =>
      skip
      return ⟨some name, some (handle, suffix), next.start, token.start⟩
    | _ => return { anchor := some name, start := token.start }
  | .tag handle suffix =>
    let next ← skipAndPeek
    match next.kind with
    | .anchor name =>
      skip
      return ⟨some name, some (handle, suffix), token.start, token.start⟩
    | _ => return { tag := some (handle, suffix), tagMark := token.start, start := token.start }
  | _ => return { start := token.start }

/-- The whole tag of a handle and a suffix. -/
def wholeTag (properties : Properties) : Parsing (Option Tag) := do
  match properties.tag with
  | none => return none
  | some (handle, suffix) =>
    if handle.isEmpty then return some suffix
    else
      match (← get).handles.lookup handle with
      | some expansion => return some (expansion.append suffix)
      | none =>
        refuse .undefinedTagHandle properties.tagMark (some (.node, properties.start))

/-- Reads a node. In a block, collections can be given by indentation, and a sequence can also be given
without it. -/
def readNode (block indentless : Bool) : Parsing Event := do
  let token ← peek
  match token.kind with
  | .reference name =>
    skip
    return ⟨.reference name, token.start⟩
  | _ =>
    let properties ← readProperties
    let token ← peek
    let tag ← wholeTag properties
    let anchor := properties.anchor
    let start := properties.start
    let sequence := fun (goal : Goal) => do
      skip
      push goal
      return (⟨.sequenceStart anchor tag, start⟩ : Event)
    let mapping := fun (goal : Goal) => do
      skip
      push goal
      return (⟨.mappingStart anchor tag, start⟩ : Event)
    let other : Parsing Event := do
      if anchor.isSome || tag.isSome then
        return ⟨.scalar anchor ⟨tag, "", .plain⟩, start⟩
      else
        refuse .noNode token.start (some (if block then .blockNode else .flowNode, start))
    match token.kind with
    | .blockEntry =>
      if indentless then
        push .indentlessSequence
        return ⟨.sequenceStart anchor tag, start⟩
      else other
    | .scalar text style =>
      skip
      return ⟨.scalar anchor ⟨if tag == some .exclamation then none else tag, text, style⟩, start⟩
    | .flowSequenceStart => sequence (.flowSequence token.start true)
    | .flowMappingStart => mapping (.flowMappingKey token.start true)
    | .blockSequenceStart => if block then sequence (.blockSequence token.start) else other
    | .blockMappingStart => if block then mapping (.blockMappingKey token.start) else other
    | _ => other

/-! ## Documents -/

/-- The handles that need no declaration. -/
def standardHandles : List (String × Tag) :=
  [("!", .exclamation), ("!!", .ofText "tag:yaml.org,2002:")]

/-- Reads directives; tells whether there is one for the version. -/
def readDirectives : (fuel : Nat) → (versioned : Bool) → Parsing Unit
  | 0, _ => pure ()
  | fuel + 1, versioned => do
    let token ← peek
    match token.kind with
    | .versionDirective major minor =>
      if versioned then refuse .duplicateVersion token.start none
      else if major != 1 || (minor != 1 && minor != 2) then
        refuse .incompatibleVersion token.start none
      else
        skip
        readDirectives fuel true
    | .tagDirective handle expansion =>
      if ((← get).handles.lookup handle).isSome then refuse .duplicateTagHandle token.start none
      else
        modify fun parser => { parser with handles := parser.handles ++ [(handle, expansion)] }
        skip
        readDirectives fuel versioned
    | _ =>
      modify fun parser => { parser with handles := parser.handles ++ standardHandles }

/-- Passes over marks for the end of a document. -/
def skipDocumentEnds : (fuel : Nat) → Parsing Unit
  | 0 => pure ()
  | fuel + 1 => do
    if (← peek).kind == .documentEnd then
      skip
      skipDocumentEnds fuel

/-- How many rounds a loop over the tokens can take. -/
def rounds : Parsing Nat := return (← get).tokens.length + 1

/-- Whether a token begins something outside of documents. -/
def isOutside : TokenKind → Bool
  | .versionDirective _ _ => true
  | .tagDirective _ _ => true
  | .documentStart => true
  | .streamEnd => true
  | _ => false

/-- Reads the beginning of a document, or the end of the text. -/
def readDocumentStart (first : Bool) : Parsing Event := do
  if !first then skipDocumentEnds (← rounds)
  let token ← peek
  if first && !isOutside token.kind then
    readDirectives (← rounds) false
    push .documentEnd
    push .blockNode
    return ⟨.documentStart, token.start⟩
  else if token.kind == .streamEnd then
    skip
    return ⟨.streamEnd, token.start⟩
  else
    readDirectives (← rounds) false
    let mark ← peek
    if mark.kind != .documentStart then refuse .noDocumentStart mark.start none
    push .documentEnd
    push .documentContent
    skip
    return ⟨.documentStart, token.start⟩

/-- Reads the end of a document. -/
def readDocumentEnd : Parsing Event := do
  let token ← peek
  if token.kind == .documentEnd then skip
  modify fun parser => { parser with handles := [] }
  push (.document false)
  return ⟨.documentEnd, token.start⟩

/-! ## Collections -/

/-- Reads a node after an indicator unless one of these tokens follows; if one does, the node is empty
and lies after the indicator. -/
def readAfter (stops : TokenKind → Bool) (goal : Goal) (indentless : Bool) : Parsing Event := do
  let stop := (← peek).stop
  let token ← skipAndPeek
  push goal
  if stops token.kind then return emptyScalar stop else readNode true indentless

def readBlockSequence (opening : Mark) : Parsing Event := do
  let token ← peek
  match token.kind with
  | .blockEntry =>
    readAfter (fun kind => kind == .blockEntry || kind == .blockEnd) (.blockSequence opening) false
  | .blockEnd =>
    skip
    return ⟨.sequenceEnd, token.start⟩
  | _ => refuse .noEntry token.start (some (.blockCollection, opening))

/-- Whether a token ends an entry of a block mapping. -/
def endsMappingPart (kind : TokenKind) : Bool :=
  kind == .key || kind == .value || kind == .blockEnd

def readIndentlessSequence : Parsing Event := do
  let token ← peek
  if token.kind == .blockEntry then
    readAfter (fun kind => kind == .blockEntry || endsMappingPart kind) .indentlessSequence false
  else return ⟨.sequenceEnd, token.start⟩

def readBlockMappingKey (opening : Mark) : Parsing Event := do
  let token ← peek
  match token.kind with
  | .key => readAfter endsMappingPart (.blockMappingValue opening) true
  | .blockEnd =>
    skip
    return ⟨.mappingEnd, token.start⟩
  | _ => refuse .noKey token.start (some (.blockMapping, opening))

def readBlockMappingValue (opening : Mark) : Parsing Event := do
  let token ← peek
  if token.kind == .value then readAfter endsMappingPart (.blockMappingKey opening) true
  else
    push (.blockMappingKey opening)
    return emptyScalar token.start

/-- Reads the comma between two entries within brackets. -/
def readComma (first : Bool) (problem : Problem) (context : Context) (opening : Mark) :
    Parsing Unit := do
  if !first then
    let token ← peek
    if token.kind == .flowEntry then skip
    else refuse problem token.start (some (context, opening))

def readFlowSequence (opening : Mark) (first : Bool) : Parsing Event := do
  if (← peek).kind != .flowSequenceEnd then
    readComma first .noCommaOrSequenceEnd .flowSequence opening
  let token ← peek
  match token.kind with
  | .flowSequenceEnd =>
    skip
    return ⟨.sequenceEnd, token.start⟩
  | .key =>
    skip
    push (.flowSequence opening false)
    push .flowPairKey
    return ⟨.mappingStart none none, token.start⟩
  | _ =>
    push (.flowSequence opening false)
    readNode false false

def readFlowPairKey : Parsing Event := do
  let token ← peek
  push .flowPairValue
  if token.kind == .value || token.kind == .flowEntry || token.kind == .flowSequenceEnd then
    skip
    return emptyScalar token.stop
  else readNode false false

def readFlowPairValue : Parsing Event := do
  push .flowPairEnd
  if (← peek).kind == .value then skip
  else return emptyScalar (← peek).start
  let token ← peek
  if token.kind == .flowEntry || token.kind == .flowSequenceEnd then
    return emptyScalar token.start
  else readNode false false

/-- Whether a token ends an entry of a mapping within brackets. -/
def endsFlowEntry (kind : TokenKind) : Bool := kind == .flowEntry || kind == .flowMappingEnd

def readFlowMappingKey (opening : Mark) (first : Bool) : Parsing Event := do
  if (← peek).kind != .flowMappingEnd then
    readComma first .noCommaOrMappingEnd .flowMapping opening
  let token ← peek
  match token.kind with
  | .flowMappingEnd =>
    skip
    return ⟨.mappingEnd, token.start⟩
  | .key =>
    let token ← skipAndPeek
    push (.flowMappingValue opening)
    if token.kind == .value || endsFlowEntry token.kind then return emptyScalar token.start
    else readNode false false
  | _ =>
    push (.flowMappingNoValue opening)
    readNode false false

def readFlowMappingValue (opening : Mark) : Parsing Event := do
  push (.flowMappingKey opening false)
  if (← peek).kind == .value then skip
  else return emptyScalar (← peek).start
  let token ← peek
  if endsFlowEntry token.kind then return emptyScalar token.start else readNode false false

/-! ## All events -/

/-- Reads what a goal asks for. -/
def attain : Goal → Parsing Event
  | .document first => readDocumentStart first
  | .documentContent => do
    let token ← peek
    if isOutside token.kind || token.kind == .documentEnd then return emptyScalar token.start
    else readNode true false
  | .documentEnd => readDocumentEnd
  | .blockNode => readNode true false
  | .blockSequence opening => readBlockSequence opening
  | .indentlessSequence => readIndentlessSequence
  | .blockMappingKey opening => readBlockMappingKey opening
  | .blockMappingValue opening => readBlockMappingValue opening
  | .flowSequence opening first => readFlowSequence opening first
  | .flowPairKey => readFlowPairKey
  | .flowPairValue => readFlowPairValue
  | .flowPairEnd => return ⟨.mappingEnd, (← peek).start⟩
  | .flowMappingKey opening first => readFlowMappingKey opening first
  | .flowMappingValue opening => readFlowMappingValue opening
  | .flowMappingNoValue opening => do
    push (.flowMappingKey opening false)
    return emptyScalar (← peek).start

/-- Reads events until no goal is left, or up to a fault. -/
def run : (fuel : Nat) → Parser → Array Event → Array Event × Option Fault
  | 0, _, events => (events, none)
  | fuel + 1, parser, events =>
    match parser.goals with
    | [] => (events, none)
    | goal :: goals =>
      match (attain goal).run { parser with goals } with
      | .ok (event, parser) => run fuel parser (events.push event)
      | .error fault => (events, fault)

/-- The events of a text, and the fault at which they end. Between two tokens there are no more than a
few events that no token stands for. -/
def ofText (text : String) : Array Event × Option Fault :=
  let (tokens, fault) := scan text
  run (8 * (tokens.length + 2)) ⟨tokens, fault, [.document true], []⟩ #[]

end Event

end JavaFacts.Yaml
