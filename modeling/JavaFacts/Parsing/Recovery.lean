import JavaFacts.Parsing.Versions

/-!
# Recovering from errors

When no stack can go on, the parser tries three things: to put in a token that is missing, to go
back to an earlier state in which the next token can be read, leaving what came since as text that
could not be parsed, and to skip the next token. The costs decide between them.
-/

namespace JavaFacts.Parsing

open JavaFacts.Grammar

namespace Parser

/-! ## Reducing without a lookahead -/

/-- A phrase that can be built in a state. -/
structure Reduction where
  phrase : Nat
  count : Nat
  weight : Int
  label : Nat

/-- The phrases that can be built on the given actions, each length once, and whether a token can
be read. -/
def reductionsIn (actions : List Action) (known : List Reduction × Bool) :
    List Reduction × Bool :=
  actions.foldl
    (fun (reductions, canRead) action =>
      match action with
      | .shift _ repetition => (reductions, canRead || !repetition)
      | .recover => (reductions, true)
      | .reduce phrase count weight label =>
        let isKnown := reductions.any fun reduction =>
          reduction.phrase == phrase && reduction.count == count
        if 0 < count && !isKnown then
          (reductions ++ [⟨phrase, count, weight, label⟩], canRead)
        else (reductions, canRead)
      | _ => (reductions, canRead))
    known

/-- All tokens, the identifier first. -/
def tokensInRank (table : Table) : List Nat :=
  table.word :: (List.range table.tokenCount).filter (· ≠ table.word)

/-- The tokens that are tried: one, or all of them. -/
def triedTokens (setting : Setting) : Option NodeSymbol → List NodeSymbol
  | some symbol => [symbol]
  | none => (tokensInRank setting.table).map .token

/-- A lookahead as the only token to try; before the end of the text all tokens are tried. -/
def onlyToken (lookahead : NodeSymbol) : Option NodeSymbol :=
  if lookahead = .endOfText then none else some lookahead

/-- Merges a head into one of the heads from `first` on, before itself. -/
def mergeAmong (setting : Setting) (first version : Nat) : Parser Bool :=
  mergeIntoEarlier setting version version ((List.range version).filter (first ≤ ·))

/-- Performs the reductions of a head one after the other; the result is that of the last. -/
def performReductions (setting : Setting) (version : Nat) :
    List Reduction → Option Nat → Parser (Option Nat)
  | [], result => pure result
  | reduction :: rest, _ => do
    let result ← reduce setting version reduction.phrase reduction.count reduction.weight
      reduction.label
    performReductions setting version rest result

/--
Performs all reductions that are possible on the tried tokens, on a head and on those that arise
from it. The result tells whether one of the tokens can then be read.
-/
def reduceFully (setting : Setting) (symbol : Option NodeSymbol) (first countBefore : Nat) :
    (fuel version round : Nat) → (canRead : Bool) → Parser Bool
  | 0, _, _, canRead => pure canRead
  | fuel + 1, version, round, canRead => do
    let count ← headCount
    if count ≤ version then return canRead
    if ← mergeAmong setting countBefore version then
      reduceFully setting symbol first countBefore fuel version (round + 1) canRead
    else
      let state := (← top version).state
      let (reductions, reads) := (triedTokens setting symbol).foldl
        (fun known token => reductionsIn (setting.actionsOn state token) known) ([], false)
      let result ← performReductions setting version reductions none
      let next := if version = first then count else version + 1
      if reads then reduceFully setting symbol first countBefore fuel next (round + 1) true
      else
        match result with
        | some new =>
          if round < versionLimit then
            replaceHead new version
            reduceFully setting symbol first countBefore fuel version (round + 1) canRead
          else
            if symbol.isSome then removeHead version
            reduceFully setting symbol first countBefore fuel next (round + 1) canRead
        | none =>
          if symbol.isSome then removeHead version
          reduceFully setting symbol first countBefore fuel next (round + 1) canRead

/-- Performs all reductions from a head on. -/
def reduceFrom (setting : Setting) (version : Nat) (symbol : Option NodeSymbol) : Parser Bool := do
  let count ← headCount
  reduceFully setting symbol version count setting.input.stepLimit version 0 false

/-! ## Missing tokens -/

/-- Tries to put in one of the tokens, after which the lookahead could be used. -/
def insertMissing (setting : Setting) (version : Nat) (lookahead : NodeSymbol) :
    List Nat → Parser Bool
  | [] => pure false
  | token :: rest => do
    let node ← top version
    let after := setting.table.afterToken node.state token
    let isUseful :=
      match setting.actionsOn after lookahead with
      | .reduce _ _ _ _ :: _ => true
      | _ => false
    if after ≠ 0 && after ≠ node.state && isUseful then
      let copy ← addHead { (← head version) with summary := none }
      push copy (some (.missingToken setting.table token node.place)) after
      if ← reduceFrom setting copy (onlyToken lookahead) then return true
      else insertMissing setting version lookahead rest
    else insertMissing setting version lookahead rest

/--
Cuts the given stack and those that arose from it, which are the ones from `countBefore` to
`count`; on one of them a missing token may be put in before.
-/
def cutAll (setting : Setting) (first countBefore count : Nat) (lookahead : NodeSymbol) :
    (fuel version : Nat) → (inserted : Bool) → Parser Unit
  | 0, _, _ => pure ()
  | fuel + 1, version, inserted => do
    if version < count then
      let inserted ←
        if inserted then pure true
        else insertMissing setting version lookahead (tokensInRank setting.table)
      push version none 0
      cutAll setting first countBefore count lookahead fuel
        (if version = first then countBefore else version + 1) inserted

/-! ## Going back -/

/-- How far the parser looks back. -/
def summaryDepth : Nat := 16

/-- Whether a state was seen at a depth already; deeper entries come later in the list. -/
def isKnownEntry (depth state : Nat) : List SummaryEntry → Bool
  | [] => false
  | entry :: rest =>
    if entry.depth < depth then false
    else (entry.depth == depth && entry.state == state) || isKnownEntry depth state rest

/-- Notes the states that a stack went through, as far as the parser may go back to them. -/
def recordSummary (version : Nat) : Parser Unit := do
  let (entries, _) ← walkDown version ([] : List SummaryEntry) fun entries node path =>
    if summaryDepth < path.count then (entries, ⟨false, true⟩)
    else if isKnownEntry path.count node.state entries then (entries, ⟨false, false⟩)
    else (⟨node.place, path.count, node.state⟩ :: entries, ⟨false, false⟩)
  modifyHead version ({ · with summary := some entries.reverse })

/-- Wraps the trees of each slice as text that could not be parsed, where the goal is reached. -/
def wrapSlices (setting : Setting) (goal : Nat) :
    List Slice → (previous : Option Nat) → Parser (Option Nat)
  | [], previous => pure previous
  | slice :: rest, previous => do
    if previous = some slice.version then wrapSlices setting goal rest previous
    else if (← top slice.version).state ≠ goal then
      halt slice.version
      wrapSlices setting goal rest previous
    else
      let errors ← popError slice.version
      let trees :=
        match errors with
        | [] => slice.trees
        | error :: _ => error.children ++ slice.trees
      let (children, extras) := Subtree.splitExtras trees
      if !children.isEmpty then
        let error := setting.build .error 0 0 children
        push slice.version (some (error.setExtra true)) goal
      extras.forM fun extra => push slice.version (some extra) goal
      wrapSlices setting goal rest (some slice.version)

/-- Goes back to a state at some depth. -/
def goBack (setting : Setting) (version depth goal : Nat) : Parser Bool := do
  let slices ← pop version depth
  return (← wrapSlices setting goal slices.toList none).isSome

/-- Whether one of the first heads is in a state at a place. -/
def hasHeadAt (count state place : Nat) : Parser Bool := do
  let machine ← get
  return (List.range count).any fun version =>
    let node := machine.top version
    node.state == state && node.place == place

/-- Tries to go back to one of the states of the summary in which the lookahead can be used. -/
def tryGoBack (setting : Setting) (version : Nat) (lookahead : NodeSymbol)
    (count progress cost place : Nat) : List SummaryEntry → Parser Bool
  | [] => pure false
  | entry :: rest => do
    if entry.state = 0 || entry.place = place then
      tryGoBack setting version lookahead count progress cost place rest
    else if ← hasHeadAt count entry.state place then
      tryGoBack setting version lookahead count progress cost place rest
    else
      let newCost := cost + entry.depth * costOfSkippedTree +
        setting.input.costBetween entry.place place
      if ← isPointless version newCost then return false
      else
        let depth := if 0 < progress then entry.depth + 1 else entry.depth
        let wentBack ←
          if (setting.actionsOn entry.state lookahead).isEmpty then pure false
          else goBack setting version depth entry.state
        if wentBack then return true
        else tryGoBack setting version lookahead count progress cost place rest

/-- Removes the heads from `first` on that are not active. -/
def removeInactive (first : Nat) : Parser Unit :=
  modify fun machine =>
    { machine with
      heads := machine.heads.extract 0 first ++
        (machine.heads.extract first machine.heads.size).filter fun head =>
          head.status.isActive }

/-! ## Skipping -/

/-- Skips the lookahead, joining it to what is being skipped already. -/
def skip (setting : Setting) (version progress : Nat) (lookahead : Subtree) : Parser Unit := do
  let mayStandAnywhere :=
    match (setting.actionsOn 1 lookahead.symbol).getLast? with
    | some .shiftExtra => true
    | _ => false
  let lookahead := if mayStandAnywhere then lookahead.setExtra true else lookahead
  let skipped := setting.build .skipping 0 0 [lookahead]
  if 0 < progress then
    let slices ← pop version 1
    match slices[0]? with
    | none => push version (some skipped) 0
    | some slice =>
      if 1 < slices.size then
        modify fun machine =>
          { machine with heads := machine.heads.extract 0 (slice.version + 1) }
      replaceHead slice.version version
      push version (some (setting.build .skipping 0 0 (slice.trees ++ [skipped]))) 0
  else push version (some skipped) 0

/-- Recovers a stack that is in state 0. -/
def recover (setting : Setting) (version : Nat) (lookahead : Subtree) : Parser Unit := do
  let count ← headCount
  let place := (← top version).place
  let summary := (← head version).summary
  let progress ← progressSinceError version
  let cost ← errorCost version
  let wentBack ←
    match summary with
    | some entries =>
      if lookahead.symbol = .error then pure false
      else tryGoBack setting version lookahead.symbol count progress cost place entries
    | none => pure false
  removeInactive count
  if wentBack && versionLimit < (← headCount) then halt version
  else if lookahead.symbol = .endOfText then
    push version (some (setting.build .error 0 place [])) 1
    accept setting version lookahead
  else
    let newCost := cost + costOfSkippedTree +
      setting.input.costBetween lookahead.facts.begin lookahead.facts.stop
    if ← isPointless version newCost then halt version
    else skip setting version progress lookahead

/-- Merges the heads from `countBefore` on into a head, as many as are told. -/
def mergeTimes (setting : Setting) (version countBefore : Nat) : Nat → Parser Unit
  | 0 => pure ()
  | times + 1 => do
    let _ ← merge setting version countBefore
    mergeTimes setting version countBefore times

/-- Handles an error that a stack has met at a token. -/
def handleError (setting : Setting) (version : Nat) (lookahead : Subtree) : Parser Unit := do
  let countBefore ← headCount
  let _ ← reduceFrom setting version none
  let count ← headCount
  cutAll setting version countBefore count lookahead.symbol (count + 1) version false
  mergeTimes setting version countBefore (count - countBefore)
  recordSummary version
  recover setting version lookahead

end Parser

end JavaFacts.Parsing
