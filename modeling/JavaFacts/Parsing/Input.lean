import JavaFacts.Grammar.Table

/-!
# Scanning a text

The parser works on places between characters. For every place it knows the offset in bytes and the
number of line feeds before it. Scanning starts at a place and finds the token that a scanner
prefers there.
-/

namespace JavaFacts.Parsing

open JavaFacts.Grammar

/-- A text as the parser sees it. -/
structure Input where
  /-- The classes of the characters. -/
  classes : Array Nat
  /-- The offset in bytes of every place, that at the end included. -/
  offsets : Array Nat
  /-- The number of line feeds before every place, that at the end included. -/
  rows : Array Nat
  /-- Whether the text begins with a byte order mark, which is no part of any token. -/
  marked : Bool
deriving Inhabited

namespace Input

/-- The number of characters, which is also the place at the end. -/
def length (input : Input) : Nat := input.classes.size

/-- The number of bytes between two places. -/
def bytesBetween (input : Input) (start stop : Nat) : Nat :=
  input.offsets.getD stop 0 - input.offsets.getD start 0

/-- The number of line feeds between two places. -/
def rowsBetween (input : Input) (start stop : Nat) : Nat :=
  input.rows.getD stop 0 - input.rows.getD start 0

/-- Adds a character at the end. -/
def push (alphabet : Alphabet) (input : Input) (character : Char) : Input where
  classes := input.classes.push (alphabet.classOf character.toNat)
  offsets := input.offsets.push (input.offsets.back?.getD 0 + character.utf8Size)
  rows := input.rows.push (input.rows.back?.getD 0 + if character = '\n' then 1 else 0)
  marked := input.marked

/-- The input of a text. -/
def ofString (alphabet : Alphabet) (text : String) : Input :=
  text.foldl (push alphabet) ⟨#[], #[0], #[0], text.startsWith "\uFEFF"⟩

/-- A bound on the number of steps of any loop over the text. -/
def stepLimit (input : Input) : Nat := (input.length + 16) * 65536

/-- The result of scanning. -/
structure Scanned where
  /-- The token that was found; the number of tokens stands for the end of the text. -/
  token : Option Nat
  /-- The place where the token begins, after separators. -/
  start : Nat
  /-- The place where the token ends. -/
  stop : Nat
  /-- The place after the last character that was looked at. -/
  reached : Nat
deriving Inhabited

/-- Reads on from a state of a scanner; each step moves the place ahead by one. -/
def scanFrom (table : Table) (input : Input) : (fuel : Nat) → (state : Nat) → Scanned → Scanned
  | 0, _, scanned => scanned
  | fuel + 1, state, scanned =>
    let facts := table.scanner.states.getD state default
    let place := scanned.reached
    let scanned :=
      match facts.accepts with
      | some token => { scanned with token := some token, stop := place }
      | none => scanned
    if h : place < input.classes.size then
      match facts.edges.getD input.classes[place] none with
      | none => scanned
      | some edge =>
        scanFrom table input fuel edge.target
          { scanned with
            start := if edge.skips then place + 1 else scanned.start
            reached := place + 1 }
    else if facts.acceptsEnd then
      { scanned with token := some table.tokenCount, stop := place }
    else scanned

/-- Scans from a place. A byte order mark at the very beginning is passed over. -/
def scan (table : Table) (input : Input) (state place : Nat) : Scanned :=
  let begin := if place = 0 && input.marked then 1 else place
  let scanned := scanFrom table input (input.length + 1) state ⟨none, begin, begin, begin⟩
  if scanned.token.isSome then scanned else { scanned with stop := scanned.reached }

/-- A token, or a stretch of text that is none, found at a place. -/
inductive Lexeme where
  /-- A token; a keyword can also be read as an identifier. -/
  | token (index start stop : Nat) (isKeyword : Bool)
  /-- Text in which no token was found. -/
  | unreadable (start stop : Nat)
deriving Inhabited

/--
Passes over text without a token, from a place on, until the scanner of state 0 finds one. So far
the text from `start` to `stop` has been passed over.
-/
def passUnreadable (table : Table) (input : Input) :
    (fuel : Nat) → (start stop place : Nat) → Lexeme
  | 0, start, stop, _ => .unreadable start stop
  | fuel + 1, start, stop, place =>
    let scanned := input.scan table (table.scanStarts.getD 0 0) place
    if scanned.token.isSome then .unreadable start stop
    else if scanned.reached ≠ stop then
      passUnreadable table input fuel start scanned.reached scanned.reached
    else if input.length ≤ scanned.reached then .unreadable start stop
    else passUnreadable table input fuel start (scanned.reached + 1) (scanned.reached + 1)

/--
The lexeme of a token that was found. The identifier gives way to a keyword with the same text if
the parser can use it in this state.
-/
def settle (table : Table) (input : Input) (state token : Nat) (scanned : Scanned) : Lexeme :=
  if token = table.word then
    let keyword := input.scan table table.scanner.keywordStart scanned.start
    match keyword.token with
    | some index =>
      if keyword.stop = scanned.stop && !(table.actionsOn state index).isEmpty then
        .token index scanned.start scanned.stop true
      else .token token scanned.start scanned.stop true
    | none => .token token scanned.start scanned.stop false
  else .token token scanned.start scanned.stop false

/--
The lexeme at a place, for a parser in some state. If no token of the state is found, any token is
accepted; if there is none either, text is passed over until there is.
-/
def lexeme (table : Table) (input : Input) (state place : Nat) : Lexeme :=
  let scanned := input.scan table (table.scanStarts.getD state 0) place
  match scanned.token with
  | some token => settle table input state token scanned
  | none =>
    let scanned :=
      if state = 0 then scanned else input.scan table (table.scanStarts.getD 0 0) place
    match scanned.token with
    | some token => settle table input state token scanned
    | none =>
      if scanned.reached ≠ scanned.start then
        passUnreadable table input (input.length + 1) scanned.start scanned.reached scanned.reached
      else if input.length ≤ scanned.reached then .unreadable scanned.start scanned.start
      else
        passUnreadable table input (input.length + 1) scanned.start (scanned.reached + 1)
          (scanned.reached + 1)

end Input

end JavaFacts.Parsing
