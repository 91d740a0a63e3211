import JavaFacts.Facts.Extraction
import JavaFacts.Proofs.InOrder
import JavaFacts.Proofs.Walk

/-!
# What extraction draws from a tree

Extraction is compared with a reading of the pre-order of the tree. Every declaration and invocation
in it has to be sound: it has a plain name, its body declares variables by fragments only, and its
arguments and receiver can be cut out of the source. If all nodes are sound, the facts are those of
the nodes in this order. Otherwise the defect is that of the first node that is not sound, and of
several defects of this node the one that is looked for first.
-/

namespace JavaFacts

open InOrder

namespace Extraction

/-! ## Sound nodes -/

/-- The text of a node can be cut out of the source. -/
def Readable (unit : SourceUnit) (node : Node) : Prop := Succeeds (unit.text node)

/-- A node declares one variable. -/
def IsFragment : Node → Prop
  | .variableFragment _ _ _ => True
  | _ => False

/-- If a node declares variables, it does so by fragments only. -/
def DeclaresByFragments : Node → Prop
  | .variableDeclaration _ fragments => ∀ fragment ∈ fragments, IsFragment fragment
  | _ => True

/-- Facts can be drawn from a node. -/
def Sound (unit : SourceUnit) : Node → Prop
  | .methodDeclaration _ name _ body =>
    Name.isPlain name ∧ ∀ statement ∈ body.getD [], DeclaresByFragments statement
  | .methodInvocation _ name receiver arguments =>
    Name.isPlain name ∧ (∀ argument ∈ arguments, Readable unit argument) ∧
      ∀ object ∈ receiver, Readable unit object
  | _ => True

instance (unit : SourceUnit) (node : Node) : Decidable (Readable unit node) :=
  inferInstanceAs (Decidable (Succeeds (unit.text node)))

instance : DecidablePred IsFragment
  | .variableFragment _ _ _ => isTrue trivial
  | .compilationUnit _ _ => isFalse id
  | .methodDeclaration _ _ _ _ => isFalse id
  | .methodInvocation _ _ _ _ => isFalse id
  | .variableDeclaration _ _ => isFalse id
  | .expression _ _ _ => isFalse id
  | .literal _ _ => isFalse id

instance : DecidablePred DeclaresByFragments
  | .variableDeclaration _ fragments =>
    inferInstanceAs (Decidable (∀ fragment ∈ fragments, IsFragment fragment))
  | .compilationUnit _ _ => isTrue trivial
  | .methodDeclaration _ _ _ _ => isTrue trivial
  | .methodInvocation _ _ _ _ => isTrue trivial
  | .variableFragment _ _ _ => isTrue trivial
  | .expression _ _ _ => isTrue trivial
  | .literal _ _ => isTrue trivial

instance (unit : SourceUnit) : DecidablePred (Sound unit)
  | .methodDeclaration _ name _ body =>
    inferInstanceAs (Decidable (Name.isPlain name ∧
      ∀ statement ∈ body.getD [], DeclaresByFragments statement))
  | .methodInvocation _ name receiver arguments =>
    inferInstanceAs (Decidable (Name.isPlain name ∧
      (∀ argument ∈ arguments, Readable unit argument) ∧ ∀ object ∈ receiver, Readable unit object))
  | .compilationUnit _ _ => isTrue trivial
  | .variableDeclaration _ _ => isTrue trivial
  | .variableFragment _ _ _ => isTrue trivial
  | .expression _ _ _ => isTrue trivial
  | .literal _ _ => isTrue trivial

/--
The defect for which extraction stops at a node. A name is looked at first, then the statements of
the body or the arguments from left to right, then the receiver.
-/
inductive FirstDefect (unit : SourceUnit) : Node → TreeDefect → Prop
  | declarationName {span : Span} {name : String} {header : List Node} {body : Option (List Node)}
      (notPlain : ¬Name.isPlain name) :
      FirstDefect unit (.methodDeclaration span name header body)
        (.declarationName span.start name)
  | notFragment {span inner : Span} {name : String} {header statements fragments : List Node}
      {fragment : Node} (plain : Name.isPlain name)
      (statement : Reached DeclaresByFragments statements (.variableDeclaration inner fragments))
      (reached : Reached IsFragment fragments fragment) (other : ¬IsFragment fragment) :
      FirstDefect unit (.methodDeclaration span name header (some statements))
        (.notFragment name fragment.kindName)
  | invocationName {span : Span} {name : String} {receiver : Option Node} {arguments : List Node}
      (notPlain : ¬Name.isPlain name) :
      FirstDefect unit (.methodInvocation span name receiver arguments)
        (.invocationName span.start name)
  | argument {span : Span} {name : String} {receiver : Option Node} {arguments : List Node}
      {argument : Node} (plain : Name.isPlain name)
      (reached : Reached (Readable unit) arguments argument)
      (unreadable : ¬Readable unit argument) :
      FirstDefect unit (.methodInvocation span name receiver arguments)
        (.outside argument.span unit.source.utf8ByteSize)
  | receiver {span : Span} {name : String} {object : Node} {arguments : List Node}
      (plain : Name.isPlain name) (readable : ∀ argument ∈ arguments, Readable unit argument)
      (unreadable : ¬Readable unit object) :
      FirstDefect unit (.methodInvocation span name (some object) arguments)
        (.outside object.span unit.source.utf8ByteSize)

/-- A node that is not sound has a defect. -/
theorem exists_firstDefect {unit : SourceUnit} {node : Node} (notSound : ¬Sound unit node) :
    ∃ defect, FirstDefect unit node defect := by
  cases node with
  | methodDeclaration span name header body =>
      by_cases plain : Name.isPlain name
      · rcases all_or_reached DeclaresByFragments (body.getD []) with
          all | ⟨statement, reached, other⟩
        · exact absurd ⟨plain, all⟩ notSound
        · cases body with
          | none => simpa using reached.mem
          | some statements =>
              cases statement with
              | variableDeclaration inner fragments =>
                  rcases all_or_reached IsFragment fragments with all | ⟨fragment, first, otherKind⟩
                  · exact absurd all other
                  · exact ⟨_, .notFragment plain reached first otherKind⟩
              | _ => exact absurd trivial other
      · exact ⟨_, .declarationName plain⟩
  | methodInvocation span name receiver arguments =>
      by_cases plain : Name.isPlain name
      · rcases all_or_reached (Readable unit) arguments with all | ⟨argument, reached, unreadable⟩
        · cases receiver with
          | none => exact absurd ⟨plain, all, by simp⟩ notSound
          | some object =>
              refine ⟨_, .receiver plain all ?_⟩
              intro readable
              exact notSound ⟨plain, all, by simpa using readable⟩
        · exact ⟨_, .argument plain reached unreadable⟩
      · exact ⟨_, .invocationName plain⟩
  | _ => exact absurd trivial notSound

theorem not_sound_of_firstDefect {unit : SourceUnit} {node : Node} {defect : TreeDefect}
    (first : FirstDefect unit node defect) : ¬Sound unit node := by
  intro sound
  cases first with
  | declarationName notPlain => exact notPlain sound.1
  | notFragment plain statement reached other =>
      exact other (sound.2 _ statement.mem _ reached.mem)
  | invocationName notPlain => exact notPlain sound.1
  | argument plain reached unreadable => exact unreadable (sound.2.1 _ reached.mem)
  | receiver plain readable unreadable => exact unreadable (sound.2.2 _ rfl)

/-! ## The facts of nodes -/

/-- The name of the variable that a fragment declares. -/
def variableName? : Node → Option String
  | .variableFragment _ name _ => some name
  | _ => none

/-- The names of the variables that a statement declares. -/
def variableNames : Node → List String
  | .variableDeclaration _ fragments => fragments.filterMap variableName?
  | _ => []

/-- What a declaration of a method is recorded as. -/
def declaration? (unit : SourceUnit) : Node → Option Declaration
  | .methodDeclaration span name _ body =>
    some ⟨name, unit.lineOf span.start, unit.lineOf (unit.stopOf span),
      (body.getD []).flatMap variableNames⟩
  | _ => none

/-- What an invocation is recorded as. -/
def call? (unit : SourceUnit) : Node → Option Call
  | .methodInvocation span name _ arguments =>
    some ⟨name, unit.lineOf span.start, arguments.length,
      arguments.filterMap fun argument => (unit.text argument).toOption⟩
  | _ => none

/-- The text of the receiver of an invocation, with the name of the method. -/
def qualifiedCall? (unit : SourceUnit) : Node → Option (String × String)
  | .methodInvocation _ name receiver _ =>
    receiver.bind fun object => (unit.text object).toOption.map fun text => (text, name)
  | _ => none

/-- The facts of nodes in their order, added to earlier ones. -/
def addFacts (unit : SourceUnit) (facts : Facts) (nodes : List Node) : Facts where
  declarations := facts.declarations ++ (nodes.filterMap (declaration? unit)).toArray
  calls := facts.calls ++ (nodes.filterMap (call? unit)).toArray
  receivers := (nodes.filterMap (qualifiedCall? unit)).foldl
    (fun receivers call => receivers.add call.1 call.2) facts.receivers

theorem addFacts_nil (unit : SourceUnit) (facts : Facts) : addFacts unit facts [] = facts := by
  simp [addFacts]

theorem addFacts_append (unit : SourceUnit) (facts : Facts) (left right : List Node) :
    addFacts unit facts (left ++ right) = addFacts unit (addFacts unit facts left) right := by
  simp only [addFacts, List.filterMap_append, List.foldl_append, ← List.append_toArray,
    Array.append_assoc]

theorem foldl_addFacts (unit : SourceUnit) (facts : Facts) (nodes : List Node) :
    nodes.foldl (fun facts node => addFacts unit facts [node]) facts =
      addFacts unit facts nodes := by
  induction nodes generalizing facts with
  | nil => rw [List.foldl_nil, addFacts_nil]
  | cons node rest ih => rw [List.foldl_cons, ih, ← addFacts_append, List.singleton_append]

/-! ## One node -/

theorem fragmentName_toOption (method : String) (node : Node) :
    (fragmentName method node).toOption = variableName? node := by
  cases node <;> rfl

theorem fragmentName_succeeds (method : String) (node : Node) :
    Succeeds (fragmentName method node) ↔ IsFragment node := by
  cases node <;> simp [Succeeds, fragmentName, IsFragment]

theorem fragmentName_of_not_isFragment {node : Node} (other : ¬IsFragment node) (method : String) :
    fragmentName method node = .error (.notFragment method node.kindName) := by
  cases node with
  | variableFragment span name initializer => exact absurd trivial other
  | _ => rfl

theorem statementVariables_eq_ok {statement : Node} (fragments : DeclaresByFragments statement)
    (method : String) :
    statementVariables method statement = .ok (variableNames statement) := by
  cases statement with
  | variableDeclaration span nodes =>
      have all : ∀ node ∈ nodes, Succeeds (fragmentName method node) := by
        intro node nodeMem
        exact (fragmentName_succeeds method node).mpr (fragments node nodeMem)
      simp only [statementVariables, variableNames, mapM_eq_ok all, fragmentName_toOption]
  | _ => rfl

theorem localVariables_eq_ok {statements : List Node}
    (all : ∀ statement ∈ statements, DeclaresByFragments statement) (method : String) :
    localVariables method statements = .ok (statements.flatMap variableNames) := by
  have each : statements.mapM (statementVariables method) = .ok (statements.map variableNames) := by
    apply mapM_eq_ok_map
    intro statement statementMem
    exact statementVariables_eq_ok (all statement statementMem) method
  rw [localVariables, each, List.flatMap_def]
  rfl

theorem localVariables_eq_error {statements fragments : List Node} {inner : Span} {fragment : Node}
    (statement : Reached DeclaresByFragments statements (.variableDeclaration inner fragments))
    (reached : Reached IsFragment fragments fragment) (other : ¬IsFragment fragment)
    (method : String) :
    localVariables method statements = .error (.notFragment method fragment.kindName) := by
  have inStatement : statementVariables method (.variableDeclaration inner fragments) =
      .error (.notFragment method fragment.kindName) := by
    apply mapM_eq_error
    · exact reached.imp fun node isFragment => (fragmentName_succeeds method node).mpr isFragment
    · exact fragmentName_of_not_isFragment other method
  have inBody : statements.mapM (statementVariables method) =
      .error (.notFragment method fragment.kindName) := by
    apply mapM_eq_error _ inStatement
    exact statement.imp fun node fragments => ⟨_, statementVariables_eq_ok fragments method⟩
  rw [localVariables, inBody]
  rfl

theorem slice_eq_error {unit : SourceUnit} {span : Span}
    (noText : ∀ text, unit.slice span ≠ .ok text) :
    unit.slice span = .error (.outside span unit.source.utf8ByteSize) := by
  rw [SourceUnit.slice] at noText ⊢
  split
  · next start stop isStart isStop =>
    exact absurd (by rw [isStart, isStop]) (noText (unit.source.extract start stop))
  · rfl

theorem text_of_not_readable {unit : SourceUnit} {node : Node} (unreadable : ¬Readable unit node) :
    unit.text node = .error (.outside node.span unit.source.utf8ByteSize) := by
  apply slice_eq_error
  intro text isText
  exact unreadable ⟨text, isText⟩

/-- From a sound node its facts are recorded, and the walk goes on below it. -/
theorem visit_of_sound {unit : SourceUnit} {node : Node} (sound : Sound unit node) (facts : Facts) :
    (extractor unit).visit node facts = (addFacts unit facts [node], .descend) := by
  cases node with
  | methodDeclaration span name header body =>
      rcases sound with ⟨plain, fragments⟩
      change recordDeclaration unit span name body facts = _
      rw [recordDeclaration, if_pos plain, localVariables_eq_ok fragments]
      simp [addFacts, List.filterMap_cons, declaration?, call?, qualifiedCall?]
  | methodInvocation span name receiver arguments =>
      rcases sound with ⟨plain, readable, receiverReadable⟩
      have texts := mapM_eq_ok readable
      have sameLength : (arguments.filterMap fun argument => (unit.text argument).toOption).length =
          arguments.length := (mapM_eq_ok_iff.mp texts).length_eq.symm
      change recordInvocation unit span name receiver arguments facts = _
      rw [recordInvocation, if_pos plain, texts]
      cases receiver with
      | none =>
          simp [recordReceiver, addFacts, List.filterMap_cons, declaration?, call?, qualifiedCall?,
            sameLength]
      | some object =>
          rcases receiverReadable object rfl with ⟨text, isText⟩
          simp [recordReceiver, addFacts, List.filterMap_cons, declaration?, call?, qualifiedCall?,
            sameLength, isText]
  | _ => exact Prod.ext (addFacts_nil unit facts).symm rfl

/-- An invocation is sound but for its receiver. -/
def LosesReceiver (unit : SourceUnit) : Node → Prop
  | .methodInvocation _ name receiver arguments =>
    Name.isPlain name ∧ (∀ argument ∈ arguments, Readable unit argument) ∧
      ∃ object ∈ receiver, ¬Readable unit object
  | _ => False

instance (unit : SourceUnit) : DecidablePred (LosesReceiver unit)
  | .methodInvocation _ name receiver arguments =>
    inferInstanceAs (Decidable (Name.isPlain name ∧
      (∀ argument ∈ arguments, Readable unit argument) ∧ ∃ object ∈ receiver, ¬Readable unit object))
  | .compilationUnit _ _ => isFalse id
  | .methodDeclaration _ _ _ _ => isFalse id
  | .variableDeclaration _ _ => isFalse id
  | .variableFragment _ _ _ => isFalse id
  | .expression _ _ _ => isFalse id
  | .literal _ _ => isFalse id

/-- The call that has been recorded by the time its receiver turns out to be unreadable. -/
def strandedCall? (unit : SourceUnit) (node : Node) : Option Call :=
  if LosesReceiver unit node then call? unit node else none

/-- The facts that are left when the walk is stopped at a node. -/
def factsAtStop (unit : SourceUnit) (facts : Facts) (node : Node) : Facts :=
  { facts with calls := facts.calls ++ (strandedCall? unit node).toArray }

theorem factsAtStop_of_keeps {unit : SourceUnit} {node : Node} (keeps : ¬LosesReceiver unit node)
    (facts : Facts) : factsAtStop unit facts node = facts := by
  simp [factsAtStop, strandedCall?, keeps]

theorem factsAtStop_of_loses {unit : SourceUnit} {node : Node} {call : Call}
    (loses : LosesReceiver unit node) (isCall : call? unit node = some call) (facts : Facts) :
    factsAtStop unit facts node = { facts with calls := facts.calls.push call } := by
  simp [factsAtStop, strandedCall?, loses, isCall]

/-- At a node with a defect the walk is stopped. -/
theorem visit_of_firstDefect {unit : SourceUnit} {node : Node} {defect : TreeDefect}
    (first : FirstDefect unit node defect) (facts : Facts) :
    (extractor unit).visit node facts = (factsAtStop unit facts node, .stop defect) := by
  cases first with
  | @declarationName span name header body notPlain =>
      change recordDeclaration unit span name body facts = _
      rw [recordDeclaration, if_neg notPlain, factsAtStop_of_keeps id]
  | @notFragment span inner name header statements fragments fragment plain statement reached
      other =>
      change recordDeclaration unit span name (some statements) facts = _
      rw [recordDeclaration, if_pos plain, Option.getD_some,
        localVariables_eq_error statement reached other, factsAtStop_of_keeps id]
  | @invocationName span name receiver arguments notPlain =>
      have keeps : ¬LosesReceiver unit (.methodInvocation span name receiver arguments) :=
        fun loses => notPlain loses.1
      change recordInvocation unit span name receiver arguments facts = _
      rw [recordInvocation, if_neg notPlain, factsAtStop_of_keeps keeps]
  | @argument span name receiver arguments argument plain reached unreadable =>
      have keeps : ¬LosesReceiver unit (.methodInvocation span name receiver arguments) :=
        fun loses => unreadable (loses.2.1 argument reached.mem)
      change recordInvocation unit span name receiver arguments facts = _
      rw [recordInvocation, if_pos plain,
        mapM_eq_error reached (text_of_not_readable unreadable), factsAtStop_of_keeps keeps]
  | @receiver span name object arguments plain readable unreadable =>
      have loses : LosesReceiver unit (.methodInvocation span name (some object) arguments) :=
        ⟨plain, readable, object, rfl, unreadable⟩
      have texts := mapM_eq_ok readable
      have sameLength := (mapM_eq_ok_iff.mp texts).length_eq
      change recordInvocation unit span name (some object) arguments facts = _
      rw [recordInvocation, if_pos plain, texts, factsAtStop_of_loses loses rfl]
      simp only [recordReceiver, text_of_not_readable unreadable, sameLength]

/-! ## Whole trees -/

theorem text_ofTree (source : String) (root other : Node) :
    (SourceUnit.ofTree source root).text = (SourceUnit.ofTree source other).text := by
  funext node
  simp only [SourceUnit.text, SourceUnit.slice, SourceUnit.ofTree]
  cases source.pos? ⟨node.span.start⟩ <;> cases source.pos? ⟨node.span.stop⟩ <;> rfl

/-- What is recorded depends on the source, and not on the tree that the unit has for it. -/
theorem extractor_ofTree (source : String) (root other : Node) :
    extractor (.ofTree source root) = extractor (.ofTree source other) := by
  have invocations :
      recordInvocation (.ofTree source root) = recordInvocation (.ofTree source other) := by
    funext span name receiver arguments facts
    simp only [recordInvocation, recordReceiver, text_ofTree source root other]
    rfl
  rw [extractor, invocations]
  rfl

theorem walk_of_allSound {unit : SourceUnit} {root : Node}
    (sound : ∀ node ∈ root.preorder, Sound unit node) (facts : Facts) :
    (extractor unit).walk root facts = ⟨addFacts unit facts root.preorder, .ok ()⟩ := by
  rw [← foldl_addFacts]
  apply Visitor.walk_of_descends
  intro node nodeMem state
  exact visit_of_sound (sound node nodeMem) state

theorem walk_of_firstDefect {unit : SourceUnit} {root node : Node} {before after : List Node}
    {defect : TreeDefect} (split : root.preorder = before ++ node :: after)
    (sound : ∀ earlier ∈ before, Sound unit earlier) (first : FirstDefect unit node defect)
    (facts : Facts) :
    (extractor unit).walk root facts =
      ⟨factsAtStop unit (addFacts unit facts before) node, .error defect⟩ := by
  rw [← foldl_addFacts]
  apply Visitor.walk_of_stops split
  · intro earlier isEarlier state
    exact visit_of_sound (sound earlier isEarlier) state
  · exact visit_of_firstDefect first _

theorem walk_of_reached {unit : SourceUnit} {root node : Node} {defect : TreeDefect}
    (reached : Reached (Sound unit) root.preorder node) (first : FirstDefect unit node defect)
    (facts : Facts) : ((extractor unit).walk root facts).outcome = .error defect := by
  rcases reached with ⟨before, after, split, sound⟩
  rw [walk_of_firstDefect split sound first]

/-- A walk records all nodes, or it is stopped at the first one that is not sound. -/
theorem walk_cases (unit : SourceUnit) (root : Node) (facts : Facts) :
    ((∀ node ∈ root.preorder, Sound unit node) ∧
        (extractor unit).walk root facts = ⟨addFacts unit facts root.preorder, .ok ()⟩) ∨
      ∃ before node after defect, root.preorder = before ++ node :: after ∧
        (∀ earlier ∈ before, Sound unit earlier) ∧ FirstDefect unit node defect ∧
        (extractor unit).walk root facts =
          ⟨factsAtStop unit (addFacts unit facts before) node, .error defect⟩ := by
  rcases all_or_reached (Sound unit) root.preorder with
    sound | ⟨node, ⟨before, after, split, sound⟩, notSound⟩
  · exact Or.inl ⟨sound, walk_of_allSound sound facts⟩
  · rcases exists_firstDefect notSound with ⟨defect, first⟩
    exact Or.inr ⟨before, node, after, defect, split, sound, first,
      walk_of_firstDefect split sound first facts⟩

end Extraction

namespace SourceUnit

open Extraction

theorem extract_of_allSound {unit : SourceUnit}
    (sound : ∀ node ∈ unit.root.preorder, Sound unit node) :
    unit.extract = .ok (addFacts unit .empty unit.root.preorder) := by
  rw [extract, walk_of_allSound sound]
  rfl

theorem extract_of_reached {unit : SourceUnit} {node : Node} {defect : TreeDefect}
    (reached : Reached (Sound unit) unit.root.preorder node)
    (first : FirstDefect unit node defect) : unit.extract = .error defect := by
  rw [extract, walk_of_reached reached first]
  rfl

/-- Extraction succeeds, or it fails for the first defect of the first node that is not sound. -/
theorem allSound_or_reached (unit : SourceUnit) :
    (∀ node ∈ unit.root.preorder, Sound unit node) ∨
      ∃ node defect, Reached (Sound unit) unit.root.preorder node ∧
        FirstDefect unit node defect := by
  rcases all_or_reached (Sound unit) unit.root.preorder with all | ⟨node, reached, notSound⟩
  · exact Or.inl all
  · rcases exists_firstDefect notSound with ⟨defect, first⟩
    exact Or.inr ⟨node, defect, reached, first⟩

theorem extract_eq_ok_iff {unit : SourceUnit} {facts : Facts} :
    unit.extract = .ok facts ↔
      (∀ node ∈ unit.root.preorder, Sound unit node) ∧
        facts = addFacts unit .empty unit.root.preorder := by
  constructor
  · intro isOk
    rcases unit.allSound_or_reached with sound | ⟨node, defect, reached, first⟩
    · rw [extract_of_allSound sound] at isOk
      exact ⟨sound, (Except.ok.inj isOk).symm⟩
    · rw [extract_of_reached reached first] at isOk
      cases isOk
  · rintro ⟨sound, rfl⟩
    exact extract_of_allSound sound

theorem declarations_of_extract {unit : SourceUnit} {facts : Facts}
    (isOk : unit.extract = .ok facts) :
    facts.declarations.toList = unit.root.preorder.filterMap (declaration? unit) := by
  rcases extract_eq_ok_iff.mp isOk with ⟨_, rfl⟩
  simp [addFacts, Facts.empty]

theorem calls_of_extract {unit : SourceUnit} {facts : Facts} (isOk : unit.extract = .ok facts) :
    facts.calls.toList = unit.root.preorder.filterMap (call? unit) := by
  rcases extract_eq_ok_iff.mp isOk with ⟨_, rfl⟩
  simp [addFacts, Facts.empty]

theorem extract_eq_error_iff {unit : SourceUnit} {defect : TreeDefect} :
    unit.extract = .error defect ↔
      ∃ node, Reached (Sound unit) unit.root.preorder node ∧ FirstDefect unit node defect := by
  constructor
  · intro isError
    rcases unit.allSound_or_reached with sound | ⟨node, other, reached, first⟩
    · rw [extract_of_allSound sound] at isError
      cases isError
    · rw [extract_of_reached reached first] at isError
      cases isError
      exact ⟨node, reached, first⟩
  · rintro ⟨node, reached, first⟩
    exact extract_of_reached reached first

/--
Extraction reads the pre-order of the tree from left to right, where children are in the order of
the text. It succeeds just if all nodes in it are sound, and then records every declaration and
every invocation in this order; otherwise it fails for the first defect of the first node that is
not sound.
-/
theorem extract_ofTree_reads_preorder (source : String) (root : Node) :
    (∀ node : Node, node.preorder = node :: node.children.flatMap Node.preorder ∧
        Node.InTextOrder node.declaredChildren node.children) ∧
      ((∃ facts, (ofTree source root).extract = .ok facts) ↔
        ∀ node ∈ root.preorder, Sound (ofTree source root) node) ∧
      (∀ facts, (ofTree source root).extract = .ok facts →
        facts.declarations.toList = root.preorder.filterMap (declaration? (ofTree source root)) ∧
          facts.calls.toList = root.preorder.filterMap (call? (ofTree source root)) ∧
          facts.receivers = (root.preorder.filterMap (qualifiedCall? (ofTree source root))).foldl
            (fun receivers call => receivers.add call.1 call.2) .empty) ∧
      ∀ defect, (ofTree source root).extract = .error defect ↔
        ∃ node, Reached (Sound (ofTree source root)) root.preorder node ∧
          FirstDefect (ofTree source root) node defect := by
  refine ⟨fun node => ⟨node.preorder_eq, node.inTextOrder_children⟩, ?_, ?_,
    fun defect => extract_eq_error_iff⟩
  · constructor
    · rintro ⟨facts, isOk⟩
      exact (extract_eq_ok_iff.mp isOk).1
    · intro sound
      exact ⟨_, extract_eq_ok_iff.mpr ⟨sound, rfl⟩⟩
  · intro facts isOk
    rcases extract_eq_ok_iff.mp isOk with ⟨_, rfl⟩
    refine ⟨?_, ?_, rfl⟩
    · simp [addFacts, Facts.empty, ofTree]
    · simp [addFacts, Facts.empty, ofTree]

end SourceUnit

end JavaFacts
