import JavaFacts.Yaml.Scalar
import JavaFacts.Yaml.Tag

/-!
# Tokens from a YAML text

Indentation opens and closes block collections. A key that is not marked by a question mark is only
known to be one by the colon after it: until then it is a possible key, and the tokens from it on wait
for what comes. A possible key cannot go beyond its line or 1024 bytes.

Main definition: `scan`, the tokens of a text up to the first fault, without those that still waited
when the fault was met.
-/

namespace JavaFacts.Yaml

/-- A place where a key may begin whose colon has not been met. -/
structure PossibleKey where
  /-- Whether nothing but a key can stand here. -/
  required : Bool
  /-- The number of tokens before it. -/
  number : Nat
  mark : Mark
deriving Repr, Inhabited

/-- A text of which some tokens have been read. -/
structure Scanner where
  cursor : Cursor
  /-- The tokens, the last one first. -/
  tokens : List Token
  /-- The number of tokens. -/
  count : Nat
  /-- The column of the innermost block collection, or -1. -/
  indent : Int
  /-- The columns of the collections around it. -/
  indents : List Int
  /-- Whether a key may begin here. -/
  keyAllowed : Bool
  /-- The possible key within the innermost brackets. -/
  key : Option PossibleKey
  /-- The possible keys outside of them, one for each pair of brackets. -/
  outerKeys : List (Option PossibleKey)
  finished : Bool

namespace Scanner

/-- The beginning of a text. -/
def ofList (characters : List Char) : Scanner where
  cursor := .ofList characters
  tokens := []
  count := 0
  indent := -1
  indents := []
  keyAllowed := true
  key := none
  outerKeys := []
  finished := false

/-- Whether the text is within brackets. -/
def inFlow (scanner : Scanner) : Bool := !scanner.outerKeys.isEmpty

/-- The number of tokens that do not wait for a possible key. -/
def settled (scanner : Scanner) : Nat :=
  (scanner.key :: scanner.outerKeys).foldl
    (fun least key => match key with
      | some key => min least key.number
      | none => least)
    scanner.count

end Scanner

/-- A step that reads tokens. -/
abbrev Scanning := StateT Scanner (Except Fault)

/-- Reads a part of the text. -/
def reading {α : Type} (scan : Scan α) : Scanning α := do
  let (value, cursor) ← scan.run (← get).cursor
  modify fun scanner => { scanner with cursor }
  return value

/-- Where the scanner is. -/
def place : Scanning Mark := return (← get).cursor.mark

/-- Stops with a problem here that has no context. -/
def refuse {α : Type} (problem : Problem) : Scanning α := do
  throw (.broken problem (← place) none)

/-- Adds a token. -/
def add (kind : TokenKind) (start stop : Mark) : Scanning Unit :=
  modify fun scanner =>
    { scanner with tokens := ⟨kind, start, stop⟩ :: scanner.tokens, count := scanner.count + 1 }

/-- Adds a token that stands for no characters. -/
def addEmpty (kind : TokenKind) : Scanning Unit := do add kind (← place) (← place)

/-- Inserts a token that stands for no characters after so many tokens. -/
def insertEmpty (kind : TokenKind) (number : Nat) (mark : Mark) : Scanning Unit :=
  modify fun scanner =>
    { scanner with
      tokens := scanner.tokens.insertIdx (scanner.count - number) ⟨kind, mark, mark⟩
      count := scanner.count + 1 }

/-! ## Possible keys -/

/-- Gives up a possible key that has not been met by its colon. -/
def giveUp (key : Option PossibleKey) : Scanning Unit := do
  match key with
  | some key =>
    if key.required then throw (.broken .noColon (← place) (some (.simpleKey, key.mark)))
  | none => pure ()

/-- Whether a possible key is too far back. -/
def PossibleKey.isStale (key : PossibleKey) (mark : Mark) : Bool :=
  key.mark.line < mark.line || key.mark.index + 1024 < mark.index

/-- A possible key, unless it is too far back. -/
def keepFresh (key : Option PossibleKey) : Scanning (Option PossibleKey) := do
  if key.any (·.isStale (← place)) then
    giveUp key
    return none
  else return key

/-- Gives up possible keys that are too far back, from the outermost on. -/
def dropStaleKeys : Scanning Unit := do
  let outerKeys ← (← get).outerKeys.reverse.mapM keepFresh
  let key ← keepFresh (← get).key
  modify fun scanner => { scanner with key, outerKeys := outerKeys.reverse }

/-- Gives up the possible key within the innermost brackets. -/
def removeKey : Scanning Unit := do
  giveUp (← get).key
  modify fun scanner => { scanner with key := none }

/-- Notes that a key may begin here. -/
def saveKey : Scanning Unit := do
  let scanner ← get
  if scanner.keyAllowed then
    let mark := scanner.cursor.mark
    let required := !scanner.inFlow && scanner.indent == (mark.column : Int)
    removeKey
    modify fun scanner => { scanner with key := some ⟨required, scanner.count, mark⟩ }

/-- Sets whether a key may begin after this token. -/
def allowKey (allowed : Bool) : Scanning Unit :=
  modify fun scanner => { scanner with keyAllowed := allowed }

/-! ## Indentation -/

/-- Closes block collections that are indented more than a column. -/
def closeBlocks (column : Int) : (fuel : Nat) → Scanning Unit
  | 0 => pure ()
  | fuel + 1 => do
    let scanner ← get
    if scanner.inFlow || scanner.indent ≤ column then pure ()
    else
      addEmpty .blockEnd
      modify fun scanner =>
        { scanner with indent := scanner.indents.headD (-1), indents := scanner.indents.drop 1 }
      closeBlocks column fuel

/-- Closes block collections that are indented more than a column. -/
def unindent (column : Int) : Scanning Unit := do closeBlocks column ((← get).indents.length + 1)

/-- Opens a block collection before the token with a number if this column is indented more. -/
def indentTo (column : Nat) (kind : TokenKind) (number : Nat) (mark : Mark) : Scanning Unit := do
  let scanner ← get
  if !scanner.inFlow && scanner.indent < (column : Int) then
    modify fun scanner =>
      { scanner with indent := column, indents := scanner.indent :: scanner.indents }
    insertEmpty kind number mark

/-- Opens a block collection here if this column is indented more. -/
def indentHere (kind : TokenKind) : Scanning Unit := do
  let mark ← place
  indentTo mark.column kind (← get).count mark

/-! ## Tokens -/

/-- Reads an indicator of so many characters. -/
def indicator (kind : TokenKind) (count : Nat) : Scanning Unit := do
  let start ← place
  reading (modify (·.skipMany count))
  add kind start (← place)

def fetchStreamEnd : Scanning Unit := do
  modify fun scanner =>
    let mark := scanner.cursor.mark
    if mark.column = 0 then scanner
    else { scanner with cursor.mark := { mark with column := 0, line := mark.line + 1 } }
  unindent (-1)
  removeKey
  allowKey false
  addEmpty .streamEnd
  modify fun scanner => { scanner with finished := true }

def fetchDirective : Scanning Unit := do
  unindent (-1)
  removeKey
  allowKey false
  let start ← place
  let (kind, stop) ← reading readDirective
  add kind start stop

def fetchDocumentMark (kind : TokenKind) : Scanning Unit := do
  unindent (-1)
  removeKey
  allowKey false
  indicator kind 3

def fetchFlowStart (kind : TokenKind) : Scanning Unit := do
  saveKey
  modify fun scanner =>
    { scanner with key := none, outerKeys := scanner.key :: scanner.outerKeys }
  allowKey true
  indicator kind 1

def fetchFlowEnd (kind : TokenKind) : Scanning Unit := do
  removeKey
  modify fun scanner =>
    match scanner.outerKeys with
    | [] => scanner
    | key :: outerKeys => { scanner with key, outerKeys }
  allowKey false
  indicator kind 1

def fetchFlowEntry : Scanning Unit := do
  removeKey
  allowKey true
  indicator .flowEntry 1

def fetchBlockEntry : Scanning Unit := do
  let scanner ← get
  if !scanner.inFlow then
    if !scanner.keyAllowed then refuse .entryNotAllowed
    indentHere .blockSequenceStart
  removeKey
  allowKey true
  indicator .blockEntry 1

def fetchKey : Scanning Unit := do
  let scanner ← get
  if !scanner.inFlow then
    if !scanner.keyAllowed then refuse .keyNotAllowed
    indentHere .blockMappingStart
  removeKey
  allowKey (!scanner.inFlow)
  indicator .key 1

def fetchValue : Scanning Unit := do
  let scanner ← get
  match scanner.key with
  | some key =>
    insertEmpty .key key.number key.mark
    indentTo key.mark.column .blockMappingStart key.number key.mark
    modify fun scanner => { scanner with key := none }
    allowKey false
  | none =>
    if !scanner.inFlow then
      if !scanner.keyAllowed then refuse .valueNotAllowed
      indentHere .blockMappingStart
    allowKey (!scanner.inFlow)
  indicator .value 1

/-- Reads a token that may begin a key. -/
def fetchNode (read : Scan TokenKind) : Scanning Unit := do
  saveKey
  allowKey false
  let start ← place
  let kind ← reading read
  add kind start (← place)

def fetchBlockScalar (literal : Bool) : Scanning Unit := do
  removeKey
  allowKey true
  let start ← place
  let (text, stop) ← reading (readBlock literal (← get).indent)
  add (.scalar text (if literal then .literal else .folded)) start stop

def fetchPlainScalar : Scanning Unit := do
  saveKey
  allowKey false
  let start ← place
  let scanner ← get
  let scalar ← reading (readPlain scanner.inFlow (scanner.indent + 1).toNat)
  add (.scalar scalar.text .plain) start scalar.stop
  if scalar.broken then allowKey true

/-! ## The next token -/

/-- Passes over blanks and comments up to the next token. A byte order mark can begin a line. A tab
cannot stand where a key may begin outside of brackets. -/
def skipToToken : (fuel : Nat) → Scanning Unit
  | 0 => pure ()
  | fuel + 1 => do
    reading (need 1)
    if (← place).column = 0 && (← get).cursor.ahead 0 == some '\ufeff' then reading skip
    let scanner ← get
    let tabs := scanner.inFlow || !scanner.keyAllowed
    discard (reading (readWhile fun character => character == ' ' || (tabs && character == '\t')))
    if (← get).cursor.ahead 0 == some '#' then reading skipToLineEnd
    if ((← get).cursor.ahead 0).any isBreak then
      discard (reading readBreak)
      if !scanner.inFlow then allowKey true
      skipToToken fuel

/-- Whether a plain scalar can begin with a character that another one follows. -/
def beginsPlain (flow : Bool) (character : Char) (next : Option Char) : Bool :=
  !(isBlank character || isBreak character ||
      "-?:,[]\x7b\x7d#&*!|>'\"%@`".toList.contains character) ||
    (character == '-' && !next.any isBlank) ||
    (!flow && (character == '?' || character == ':') && !endsWord next)

/-- Reads the next token that begins with a character. -/
def fetchAt (character : Char) : Scanning Unit := do
  let scanner ← get
  let next := scanner.cursor.ahead 1
  let flow := scanner.inFlow
  if scanner.cursor.mark.column = 0 && character == '%' then fetchDirective
  else if scanner.cursor.atDocumentMark '-' then fetchDocumentMark .documentStart
  else if scanner.cursor.atDocumentMark '.' then fetchDocumentMark .documentEnd
  else if character == '[' then fetchFlowStart .flowSequenceStart
  else if character == '\x7b' then fetchFlowStart .flowMappingStart
  else if character == ']' then fetchFlowEnd .flowSequenceEnd
  else if character == '\x7d' then fetchFlowEnd .flowMappingEnd
  else if character == ',' then fetchFlowEntry
  else if character == '-' && endsWord next then fetchBlockEntry
  else if character == '?' && (flow || endsWord next) then fetchKey
  else if character == ':' && (flow || endsWord next) then fetchValue
  else if character == '*' then fetchNode (return .reference (← readName .reference))
  else if character == '&' then fetchNode (return .anchor (← readName .anchor))
  else if character == '!' then
    fetchNode do
      let (handle, suffix) ← readTag flow
      return .tag handle suffix
  else if character == '|' && !flow then fetchBlockScalar true
  else if character == '>' && !flow then fetchBlockScalar false
  else if character == '\'' then fetchNode (return .scalar (← readQuoted true) .singleQuoted)
  else if character == '\"' then fetchNode (return .scalar (← readQuoted false) .doubleQuoted)
  else if beginsPlain flow character next then fetchPlainScalar
  else
    let mark ← place
    reading (fail .nextToken mark .noToken)

/-- Reads the next token. -/
def fetch : Scanning Unit := do
  reading (need 1)
  skipToToken ((← get).cursor.size + 1)
  dropStaleKeys
  unindent (← place).column
  reading (need 4)
  match (← get).cursor.ahead 0 with
  | none => fetchStreamEnd
  | some character => fetchAt character
  dropStaleKeys

/-! ## All tokens -/

/-- Reads tokens up to the end of the text or to a fault. -/
def Scanner.run : (fuel : Nat) → Scanner → List Token × Option Fault
  | 0, scanner => (scanner.tokens.reverse, none)
  | fuel + 1, scanner =>
    if scanner.finished then (scanner.tokens.reverse, none)
    else
      match fetch.run scanner with
      | .ok (_, next) => next.run fuel
      | .error fault => (scanner.tokens.reverse.take scanner.settled, some fault)

/-- The tokens of a text, and the fault at which they end. -/
def scan (text : String) : List Token × Option Fault :=
  (Scanner.ofList text.toList).run (text.length + 2)

end JavaFacts.Yaml
