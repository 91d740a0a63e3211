import JavaFacts.Parsing.Recovery

/-!
# Running the parser

The parser lets its stacks read on in turn, so that all of them reach about the same place, and then
drops those that are pointless. It ends when no stack is left, or when a finished tree is better than
every stack.
-/

namespace JavaFacts.Parsing

open JavaFacts.Grammar

namespace Parser

/-- How the actions on a lookahead ended. -/
inductive Progress where
  /-- The lookahead was used, or the stack has stopped. -/
  | done
  /-- Phrases were built; the last head that arose goes on. -/
  | built (version : Nat)
  /-- There was no action, or every phrase that was built has been merged into another stack. -/
  | stuck

/-- Performs the actions of a state on a lookahead. -/
def perform (setting : Setting) (version state : Nat) (lookahead : Subtree) :
    List Action → Progress → Parser Progress
  | [], progress => pure progress
  | action :: rest, progress => do
    match action with
    | .shift target repetition =>
      if repetition then perform setting version state lookahead rest progress
      else
        push version (some (lookahead.setExtra false)) target
        return .done
    | .shiftExtra =>
      push version (some (lookahead.setExtra true)) state
      return .done
    | .reduce phrase count weight label =>
      let new ← reduce setting version phrase count weight label
      perform setting version state lookahead rest ((new.map .built).getD progress)
    | .accept =>
      accept setting version lookahead
      return .done
    | .recover =>
      recover setting version lookahead
      return .done

/-- Lets a stack use a lookahead, building phrases as long as that is possible. -/
def advanceWith (setting : Setting) (version : Nat) :
    (fuel state : Nat) → (lookahead : Subtree) → Parser Unit
  | 0, _, _ => pure ()
  | fuel + 1, state, lookahead => do
    match ← perform setting version state lookahead
        (setting.actionsOn state lookahead.symbol) .stuck with
    | .done => pure ()
    | .built new =>
      replaceHead new version
      advanceWith setting version fuel (← top version).state lookahead
    | .stuck =>
      let word := .token setting.table.word
      if lookahead.facts.keyword && lookahead.symbol ≠ word &&
          !(setting.actionsOn state word).isEmpty then
        advanceWith setting version fuel state (lookahead.asWord setting.table)
      else if state = 0 then recover setting version lookahead
      else
        let progress := (← top version).progress
        modifyHead version fun head =>
          { head with status := .paused lookahead, progressAtError := progress }

/-- Lets a stack read the next token. -/
def advance (setting : Setting) (version : Nat) : Parser Unit := do
  let node ← top version
  advanceWith setting version setting.input.stepLimit node.state
    (setting.lookahead node.state node.place)

/-! ## Dropping stacks -/

/--
Compares a stack of some standing with the earlier ones, from `earlier` on. The result is the number
that the stack then has, if it has not been removed or merged.
-/
def compareWithEarlier (setting : Setting) (own : Standing) :
    (fuel version earlier : Nat) → Parser (Option Nat)
  | 0, version, _ => pure (some version)
  | fuel + 1, version, earlier => do
    if earlier < version then
      match (← standing earlier).compare own with
      | .takeLeft =>
        removeHead version
        return none
      | .preferLeft | .even =>
        if ← merge setting earlier version then return none
        else compareWithEarlier setting own fuel version (earlier + 1)
      | .preferRight =>
        if ← merge setting earlier version then return none
        else
          let left ← head earlier
          let right ← head version
          modifyHead earlier fun _ => right
          modifyHead version fun _ => left
          compareWithEarlier setting own fuel version (earlier + 1)
      | .takeRight =>
        removeHead earlier
        compareWithEarlier setting own fuel (version - 1) earlier
    else return some version

/-- Compares all stacks from `version` on with the earlier ones; the result is the least cost. -/
def dropPointless (setting : Setting) :
    (fuel version : Nat) → (least : Option Nat) → Parser (Option Nat)
  | 0, _, least => pure least
  | fuel + 1, version, least => do
    if version < (← headCount) then
      if (← head version).status.isHalted then
        removeHead version
        dropPointless setting fuel version least
      else
        let own ← standing version
        let least :=
          if own.inError then least
          else some (match least with
            | some known => min known own.cost
            | none => own.cost)
        match ← compareWithEarlier setting own ((← headCount) + 1) version 0 with
        | some version => dropPointless setting fuel (version + 1) least
        | none => dropPointless setting fuel version least
    else return least

/-- The most complete trees after which errors are no longer handled. -/
def finishedLimit : Nat := 6

/--
Lets the first stack that has met an error recover, unless a better stack can go on, and drops the
others that have met errors. The result is the cost of the stack that recovers, if any.
-/
def resume (setting : Setting) :
    (fuel version count : Nat) → (isGoing : Bool) → (least : Option Nat) → Parser (Option Nat)
  | 0, _, _, _, least => pure least
  | fuel + 1, version, count, isGoing, least => do
    if version < count then
      match (← head version).status with
      | .paused lookahead =>
        if !isGoing && (← get).finishedCount < finishedLimit then
          let cost ← errorCost version
          modifyHead version ({ · with status := .active })
          handleError setting version lookahead
          resume setting fuel (version + 1) count true (some cost)
        else
          removeHead version
          resume setting fuel version (count - 1) isGoing least
      | _ => resume setting fuel (version + 1) count true least
    else return least

/-- Drops pointless stacks and lets one recover if needed; the result is the least cost. -/
def condense (setting : Setting) : Parser (Option Nat) := do
  let count ← headCount
  let least ← dropPointless setting (2 * count + 2) 0 none
  modify fun machine => { machine with heads := machine.heads.extract 0 versionLimit }
  let count ← headCount
  resume setting (2 * count + 2) 0 count false least

/-! ## The main loop -/

/-- Lets a stack read on until it is ahead; the result is the farthest place so far. -/
def readAhead (setting : Setting) (version : Nat) : (fuel farthest : Nat) → Parser Nat
  | 0, farthest => pure farthest
  | fuel + 1, farthest => do
    if version < (← headCount) && (← head version).status.isActive then
      advance setting version
      let place := (← top version).place
      if farthest < place || (0 < version && place = farthest) then return place
      else readAhead setting version fuel farthest
    else return farthest

/-- Lets all stacks from `version` on read ahead. -/
def readAll (setting : Setting) : (fuel version farthest : Nat) → Parser Nat
  | 0, _, farthest => pure farthest
  | fuel + 1, version, farthest => do
    if version < (← headCount) then
      let farthest ← readAhead setting version setting.input.stepLimit farthest
      readAll setting fuel (version + 1) farthest
    else return farthest

/-- Runs the parser to its end. -/
def readText (setting : Setting) : (fuel farthest : Nat) → Parser Unit
  | 0, _ => pure ()
  | fuel + 1, farthest => do
    let farthest ← readAll setting setting.input.stepLimit 0 farthest
    let count ← headCount
    let least ← condense setting
    let isFinished :=
      match (← get).finished, least with
      | some tree, some least => decide (tree.facts.cost < least)
      | some _, none => true
      | none, _ => false
    if isFinished || count = 0 then pure () else readText setting fuel farthest

end Parser

/-- The tree of a text, every token and phrase of it. -/
def parseSubtree (table : Table) (input : Input) : Option Subtree :=
  let setting : Setting := ⟨table, input⟩
  ((Parser.readText setting input.stepLimit 0).run Machine.initial).2.finished

end JavaFacts.Parsing
