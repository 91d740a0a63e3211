import JavaFacts.Parsing.Reading

/-!
# Comparing stacks

Stacks compete by the cost of their errors. A stack that has read much since its last error may be
behind by less than one that has read little; a stack without an open error always comes first.
-/

namespace JavaFacts.Parsing

open JavaFacts.Grammar

/-- What stacks are compared by. -/
structure Standing where
  cost : Nat
  /-- The progress since the last error. -/
  progress : Nat
  weight : Int
  /-- Whether an error is open. -/
  inError : Bool

/-- The outcome of a comparison. -/
inductive Verdict where
  /-- The left stack makes the right one pointless. -/
  | takeLeft
  | preferLeft
  | even
  | preferRight
  /-- The right stack makes the left one pointless. -/
  | takeRight
deriving BEq, DecidableEq

namespace Standing

/-- The lead in cost, weighted with progress, that makes the other stack pointless. -/
def decisiveLead : Nat := 18 * costOfSkippedTree

/-- Compares two standings. -/
def compare (left right : Standing) : Verdict :=
  if !left.inError && right.inError then
    if left.cost < right.cost then .takeLeft else .preferLeft
  else if left.inError && !right.inError then
    if right.cost < left.cost then .takeRight else .preferRight
  else if left.cost < right.cost then
    if decisiveLead < (right.cost - left.cost) * (1 + left.progress) then .takeLeft
    else .preferLeft
  else if right.cost < left.cost then
    if decisiveLead < (left.cost - right.cost) * (1 + right.progress) then .takeRight
    else .preferRight
  else if left.weight > right.weight then .preferLeft
  else if right.weight > left.weight then .preferRight
  else .even

end Standing

namespace Parser

/-- The cost of the errors of a stack, with that of an error that has just been found. -/
def errorCost (version : Nat) : Parser Nat := do
  let machine ← get
  let node := machine.top version
  let wasCut :=
    match node.links with
    | link :: _ => link.tree.isNone
    | [] => false
  let isOpen := (machine.head version).status.isPaused || (node.state == 0 && wasCut)
  return node.cost + if isOpen then costOfRecovery else 0

/-- The progress of a stack since its last error. -/
def progressSinceError (version : Nat) : Parser Nat := do
  let progress := (← top version).progress
  modifyHead version fun head =>
    { head with progressAtError := min head.progressAtError progress }
  return progress - (← head version).progressAtError

/-- The standing of a stack. -/
def standing (version : Nat) : Parser Standing := do
  let cost ← errorCost version
  let isPaused := (← head version).status.isPaused
  let progress ← progressSinceError version
  let node ← top version
  return {
    cost := if isPaused then cost + costOfSkippedTree else cost
    progress := progress
    weight := node.weight
    inError := isPaused || node.state == 0 }

/-- Whether one of the given stacks is better than a stack that would have the given standing. -/
def isBeatenBy (version : Nat) (standing : Standing) (place : Nat) : List Nat → Parser Bool
  | [] => pure false
  | other :: rest => do
    let machine ← get
    if other = version || !(machine.head other).status.isActive ||
        (machine.top other).place < place then
      isBeatenBy version standing place rest
    else
      match standing.compare (← Parser.standing other) with
      | .takeRight => return true
      | .preferRight =>
        if ← canMerge other version then return true
        else isBeatenBy version standing place rest
      | _ => isBeatenBy version standing place rest

/-- Whether a stack would be pointless at a cost: another stack or a finished tree is better. -/
def isPointless (version cost : Nat) : Parser Bool := do
  let machine ← get
  let finishedIsBetter :=
    match machine.finished with
    | some tree => decide (tree.facts.cost ≤ cost)
    | none => false
  if finishedIsBetter then return true
  else
    let node := machine.top version
    let count := machine.heads.size
    let progress ← progressSinceError version
    isBeatenBy version ⟨cost, progress, node.weight, false⟩ node.place (List.range count)

end Parser

end JavaFacts.Parsing
