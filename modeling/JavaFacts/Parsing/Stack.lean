import JavaFacts.Parsing.Subtree

/-!
# The branching stack

Where the grammar leaves several actions open the parser follows all of them. Its stacks share what
they have in common: the nodes form a graph in which every link leads one step down and carries the
tree that was read there. A head is the top of one stack. Heads in the same state at the same place
are merged, and the differences between them remain as several links.
-/

namespace JavaFacts.Parsing

open JavaFacts.Grammar

/-- A step down the stack, with the tree between the two nodes unless something was cut out there. -/
structure Link where
  node : Nat
  tree : Option Subtree
deriving Inhabited

/-- A node of the stack. -/
structure StackNode where
  links : List Link
  state : Nat
  /-- The place up to which the text has been read. -/
  place : Nat
  /-- The cost of the errors so far. -/
  cost : Nat
  /-- The progress so far. -/
  progress : Nat
  /-- The weight of the best reading so far. -/
  weight : Int
deriving Inhabited

/-- What the parser does with a head. -/
inductive HeadStatus where
  | active
  /-- An error was found at this token. -/
  | paused (lookahead : Subtree)
  | halted
deriving Inhabited

namespace HeadStatus

def isActive : HeadStatus → Bool
  | active => true
  | _ => false

def isPaused : HeadStatus → Bool
  | paused _ => true
  | _ => false

def isHalted : HeadStatus → Bool
  | halted => true
  | _ => false

end HeadStatus

/-- An earlier state of a stack to which the parser may go back after an error. -/
structure SummaryEntry where
  place : Nat
  depth : Nat
  state : Nat
deriving Inhabited

/-- The top of one stack. -/
structure Head where
  node : Nat
  /-- The progress at the last error. -/
  progressAtError : Nat
  status : HeadStatus
  summary : Option (List SummaryEntry)
deriving Inhabited

/-- The state of the parser. -/
structure Machine where
  nodes : Array StackNode
  heads : Array Head
  /-- The best complete tree so far. -/
  finished : Option Subtree
  /-- How many complete trees have been found. -/
  finishedCount : Nat
deriving Inhabited

/-- What the parser reads and never changes. -/
structure Setting where
  table : Table
  input : Input

abbrev Parser := StateM Machine

namespace Machine

/-- One active head at the beginning of the text. -/
def initial : Machine where
  nodes := #[⟨[], 1, 0, 0, 0, 0⟩]
  heads := #[⟨0, 0, .active, none⟩]
  finished := none
  finishedCount := 0

def node (machine : Machine) (id : Nat) : StackNode := machine.nodes.getD id default

def head (machine : Machine) (version : Nat) : Head := machine.heads.getD version default

/-- The node on top of a stack. -/
def top (machine : Machine) (version : Nat) : StackNode := machine.node (machine.head version).node

end Machine

namespace Parser

def modifyNode (id : Nat) (change : StackNode → StackNode) : Parser Unit :=
  modify fun machine => { machine with nodes := machine.nodes.modify id change }

def modifyHead (version : Nat) (change : Head → Head) : Parser Unit :=
  modify fun machine => { machine with heads := machine.heads.modify version change }

def removeHead (version : Nat) : Parser Unit :=
  modify fun machine => { machine with heads := machine.heads.eraseIdxIfInBounds version }

def addHead (head : Head) : Parser Nat :=
  modifyGet fun machine =>
    (machine.heads.size, { machine with heads := machine.heads.push head })

def headCount : Parser Nat := do return (← get).heads.size

def head (version : Nat) : Parser Head := do return (← get).head version

def top (version : Nat) : Parser StackNode := do return (← get).top version

def halt (version : Nat) : Parser Unit := modifyHead version ({ · with status := .halted })

/-- Pushes a tree on a stack, or notes that something was cut out, and goes to a state. -/
def push (version : Nat) (tree : Option Subtree) (state : Nat) : Parser Unit :=
  modify fun machine =>
    let head := machine.head version
    let below := machine.node head.node
    let node : StackNode :=
      match tree with
      | none => { below with links := [⟨head.node, none⟩], state := state }
      | some tree =>
        { links := [⟨head.node, some tree⟩]
          state := state
          place := tree.facts.stop
          cost := below.cost + tree.facts.cost
          progress := below.progress + tree.progress
          weight := below.weight + tree.facts.weight }
    let id := machine.nodes.size
    { machine with
      nodes := machine.nodes.push node
      heads := machine.heads.modify version fun head =>
        { head with
          node := id
          progressAtError := if tree.isNone then node.progress else head.progressAtError } }

/-! ## Merging -/

/-- The most links of one node. -/
def linkLimit : Nat := 8

/-- Adds the weight and progress of a link to the node from which it leads. -/
def noteLink (below : StackNode) (tree : Option Subtree) (node : StackNode) : StackNode :=
  match tree with
  | none =>
    { node with
      progress := max node.progress below.progress
      weight := max node.weight below.weight }
  | some tree =>
    { node with
      progress := max node.progress (below.progress + tree.progress)
      weight := max node.weight (below.weight + tree.facts.weight) }

/-- How a link that is to be added to a node relates to one that is there. -/
inductive LinkMatch where
  /-- It leads to the same node with an equal tree. -/
  | same (index : Nat) (tree : Option Subtree)
  /-- It leads to a node that can be merged with the node below. -/
  | mergeable (node : Nat)
  | new

/-- Looks for a link that can be taken for the given one. -/
def matchLink (setting : Setting) (machine : Machine) (link : Link) (index : Nat) :
    List Link → LinkMatch
  | [] => .new
  | known :: rest =>
    if Subtree.alike setting.input known.tree link.tree then
      if known.node = link.node then .same index known.tree
      else
        let left := machine.node known.node
        let right := machine.node link.node
        if left.state = right.state && left.place = right.place && left.cost = right.cost then
          .mergeable known.node
        else matchLink setting machine link (index + 1) rest
    else matchLink setting machine link (index + 1) rest

/-- Adds a link to a node; the nodes below equal links are merged in turn. -/
def addLink (setting : Setting) : (fuel : Nat) → (id : Nat) → Link → Parser Unit
  | 0, _, _ => pure ()
  | fuel + 1, id, link => do
    if link.node = id then return
    let machine ← get
    let relation := matchLink setting machine link 0 (machine.node id).links
    let below := machine.node link.node
    match relation with
    | .same index known =>
      match link.tree, known with
      | some tree, some known =>
        if tree.facts.weight > known.facts.weight then
          modifyNode id fun node =>
            { node with
              links := node.links.modify index ({ · with tree := some tree })
              weight := below.weight + tree.facts.weight }
      | _, _ => pure ()
    | .mergeable known =>
      below.links.forM (addLink setting fuel known)
      let weight := ((← get).node link.node).weight +
        ((link.tree.map fun tree => tree.facts.weight).getD 0)
      modifyNode id fun node => { node with weight := max node.weight weight }
    | .new =>
      modifyNode id fun node =>
        if node.links.length < linkLimit then
          noteLink below link.tree { node with links := node.links ++ [link] }
        else node

/-- Whether two heads are active in the same state at the same place with equal costs. -/
def canMerge (left right : Nat) : Parser Bool := do
  let machine ← get
  let leftTop := machine.top left
  let rightTop := machine.top right
  return (machine.head left).status.isActive && (machine.head right).status.isActive &&
    leftTop.state == rightTop.state && leftTop.place == rightTop.place &&
    leftTop.cost == rightTop.cost

/-- Merges the second head into the first, if they can be merged. -/
def merge (setting : Setting) (left right : Nat) : Parser Bool := do
  if ← canMerge left right then
    let machine ← get
    let id := (machine.head left).node
    (machine.top right).links.forM (addLink setting (machine.nodes.size + 1) id)
    let node := (← get).node id
    if node.state = 0 then modifyHead left ({ · with progressAtError := node.progress })
    removeHead right
    return true
  else return false

/-- Puts one head in the place of another; a summary of the other is kept. -/
def replaceHead (source target : Nat) : Parser Unit := do
  if source ≠ target then
    let new ← head source
    let old ← head target
    modifyHead target fun _ => { new with summary := new.summary <|> old.summary }
    removeHead source

/-! ## Going down the stacks -/

/-- A way down from a head. -/
structure Path where
  node : Nat
  /-- The trees that were passed, in the order of the text. -/
  trees : List Subtree
  /-- The number of trees that were passed, without extras. -/
  count : Nat
deriving Inhabited

/-- What to do at a node on the way down. -/
structure Visit where
  /-- Whether the trees so far form a slice. -/
  take : Bool
  /-- Whether the way ends here. -/
  stop : Bool

/-- The trees that were taken off a stack, and the head that remains. -/
structure Slice where
  version : Nat
  trees : List Subtree
deriving Inhabited

/-- The most ways that are followed at once. -/
def pathLimit : Nat := 64

/-- The number of the last slice whose head stands at a node. -/
def lastSliceAt (machine : Machine) (slices : Array Slice) (node : Nat) : Option Nat :=
  (List.range slices.size).reverse.find? fun index =>
    (machine.head (slices.getD index default).version).node == node

/-- Adds a slice. Slices that end at the same node share a head and stand together. -/
def addSlice (source : Nat) (slices : Array Slice) (node : Nat) (trees : List Subtree) :
    Parser (Array Slice) := do
  let machine ← get
  match lastSliceAt machine slices node with
  | some index =>
    return slices.insertIdxIfInBounds (index + 1) ⟨(slices.getD index default).version, trees⟩
  | none =>
    let version ← addHead ⟨node, (machine.head source).progressAtError, .active, none⟩
    return slices.push ⟨version, trees⟩

/-- The path after one more link. -/
def Path.follow (path : Path) (link : Link) : Path :=
  match link.tree with
  | none => ⟨link.node, path.trees, path.count + 1⟩
  | some tree =>
    ⟨link.node, tree :: path.trees, if tree.isExtra then path.count else path.count + 1⟩

/-- The ways down that are being followed: those still to be moved, and those moved already. -/
structure Descent (σ : Type) where
  visitor : σ
  slices : Array Slice
  /-- The moved paths, the last one first. -/
  moved : List Path
  /-- The new paths, the last one first. -/
  added : List Path

/-- Moves every path one step down. -/
def descendOnce {σ : Type} (source : Nat) (visit : σ → StackNode → Path → σ × Visit) :
    List Path → Descent σ → Parser (Descent σ)
  | [], descent => pure descent
  | path :: rest, descent => do
    let node := (← get).node path.node
    let (visitor, decision) := visit descent.visitor node path
    let slices ←
      if decision.take then addSlice source descent.slices path.node path.trees
      else pure descent.slices
    let descent := { descent with visitor := visitor, slices := slices }
    match node.links with
    | [] => descendOnce source visit rest descent
    | first :: others =>
      if decision.stop then descendOnce source visit rest descent
      else
        let room := pathLimit -
          (descent.moved.length + 1 + rest.length + descent.added.length)
        let new := (others.take room).map path.follow
        descendOnce source visit rest
          { descent with
            moved := path.follow first :: descent.moved
            added := new.reverse ++ descent.added }

/-- Moves down until every path has ended. -/
def descend {σ : Type} (source : Nat) (visit : σ → StackNode → Path → σ × Visit) :
    (fuel : Nat) → List Path → σ → Array Slice → Parser (σ × Array Slice)
  | 0, _, visitor, slices => pure (visitor, slices)
  | _, [], visitor, slices => pure (visitor, slices)
  | fuel + 1, paths, visitor, slices => do
    let descent ← descendOnce source visit paths ⟨visitor, slices, [], []⟩
    descend source visit fuel (descent.moved.reverse ++ descent.added.reverse) descent.visitor
      descent.slices

/-- Follows all ways down from a head. -/
def walkDown {σ : Type} (version : Nat) (start : σ) (visit : σ → StackNode → Path → σ × Visit) :
    Parser (σ × Array Slice) := do
  let machine ← get
  descend version visit (machine.nodes.size + 1) [⟨(machine.head version).node, [], 0⟩] start #[]

/-- Takes a number of trees off a stack, along all ways. -/
def pop (version count : Nat) : Parser (Array Slice) := do
  let (_, slices) ← walkDown version () fun _ _ path =>
    ((), if path.count = count then ⟨true, true⟩ else ⟨false, false⟩)
  return slices

/-- Takes all trees off a stack, along all ways. -/
def popAll (version : Nat) : Parser (Array Slice) := do
  let (_, slices) ← walkDown version () fun _ node _ => ((), ⟨node.links.isEmpty, false⟩)
  return slices

/-- Takes a tree of text that could not be parsed off a stack, if one is on top. -/
def popError (version : Nat) : Parser (List Subtree) := do
  let node ← top version
  let isError := fun (tree : Option Subtree) =>
    (tree.map fun tree => decide (tree.symbol = .error)).getD false
  if node.links.any fun link => isError link.tree then
    let (_, slices) ← walkDown version false fun found _ path =>
      match path.trees with
      | [] => (found, ⟨false, false⟩)
      | tree :: _ =>
        if !found && tree.symbol = .error then (true, ⟨true, true⟩) else (found, ⟨false, true⟩)
    match slices[0]? with
    | some slice =>
      replaceHead slice.version version
      return slice.trees
    | none => return []
  else return []

end Parser

end JavaFacts.Parsing
