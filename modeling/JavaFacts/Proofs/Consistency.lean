import JavaFacts.Proofs.Lines
import JavaFacts.Proofs.Receivers
import JavaFacts.Proofs.Slices

/-!
# Facts are consistent

Trees of any shape can be walked with the same facts one after another, and a walk may be stopped in
the middle. Whatever was walked, the facts are consistent with the source and with each other: names
are plain, lines are lines of the source, texts are written in the source, every receiver is listed
once with at least one call, and no method is called more often on receivers than it is called. A
declaration ends on the line where it starts or on a later one, if its span stops at a word. If the
span goes on behind all words, the declaration ends on an earlier line or on the same.

Facts change in three ways only. A declaration is added, a call is added, or a call is added together
with its receiver. Each of them keeps facts consistent, and so does every walk.
-/

namespace JavaFacts

open InOrder

/-- A text is written somewhere in a source. -/
def IsWrittenIn (source text : String) : Prop := ∃ front back, source = front ++ text ++ back

/-- A declaration has a plain name, and its lines are lines of the unit. -/
structure Declaration.FitsIn (unit : SourceUnit) (declaration : Declaration) : Prop where
  plain : Name.isPlain declaration.name
  startLine : 1 ≤ declaration.startLine ∧ declaration.startLine ≤ unit.lineCount
  endLine : 1 ≤ declaration.endLine ∧ declaration.endLine ≤ unit.lineCount

/-- A call has a plain name, its line is one of the unit, and its arguments are written there. -/
structure Call.FitsIn (unit : SourceUnit) (call : Call) : Prop where
  plain : Name.isPlain call.name
  firstLine : 1 ≤ call.startLine
  lastLine : call.startLine ≤ unit.lineCount
  counted : call.argumentCount = call.argumentTexts.length
  written : ∀ text ∈ call.argumentTexts, IsWrittenIn unit.source text

/-- Facts that agree with the unit and with each other. -/
structure Facts.Consistent (unit : SourceUnit) (facts : Facts) : Prop where
  declarations : ∀ declaration ∈ facts.declarations, declaration.FitsIn unit
  calls : ∀ call ∈ facts.calls, call.FitsIn unit
  distinct : facts.receivers.receivers.Nodup
  written : ∀ entry ∈ facts.receivers.entries, IsWrittenIn unit.source entry.1
  called : ∀ entry ∈ facts.receivers.entries, entry.2 ≠ #[]
  balanced : ∀ name, facts.receivers.names.count name ≤
    (facts.calls.toList.map Call.name).count name

/-! ## What keeps facts consistent -/

namespace Facts.Consistent

variable {unit : SourceUnit} {facts : Facts}

theorem empty (unit : SourceUnit) : Facts.Consistent unit .empty := by
  constructor <;> simp [Facts.empty, ReceiverCalls.empty, ReceiverCalls.receivers,
    ReceiverCalls.names]

theorem declare (consistent : facts.Consistent unit) {declaration : Declaration}
    (fits : declaration.FitsIn unit) :
    { facts with declarations := facts.declarations.push declaration }.Consistent unit where
  declarations := by
    intro other isOther
    rcases Array.mem_push.mp isOther with isOld | rfl
    · exact consistent.declarations other isOld
    · exact fits
  calls := consistent.calls
  distinct := consistent.distinct
  written := consistent.written
  called := consistent.called
  balanced := consistent.balanced

theorem call (consistent : facts.Consistent unit) {call : Call} (fits : call.FitsIn unit) :
    { facts with calls := facts.calls.push call }.Consistent unit where
  declarations := consistent.declarations
  calls := by
    intro other isOther
    rcases Array.mem_push.mp isOther with isOld | rfl
    · exact consistent.calls other isOld
    · exact fits
  distinct := consistent.distinct
  written := consistent.written
  called := consistent.called
  balanced := by
    intro name
    rw [Array.toList_push, List.map_append, List.count_append]
    exact Nat.le_trans (consistent.balanced name) (Nat.le_add_right _ _)

/-- The call and its receiver are added together, so that no receiver has a call of its own. -/
theorem callOn (consistent : facts.Consistent unit) {call : Call} {receiver : String}
    (fits : call.FitsIn unit) (written : IsWrittenIn unit.source receiver) :
    { facts with
      calls := facts.calls.push call
      receivers := facts.receivers.add receiver call.name }.Consistent unit where
  declarations := consistent.declarations
  calls := (consistent.call fits).calls
  distinct := ReceiverCalls.nodup_receivers_add consistent.distinct receiver call.name
  written := by
    intro entry isEntry
    rcases ReceiverCalls.mem_entries_add isEntry with isOld | ⟨earlier, rfl⟩
    · exact consistent.written entry isOld
    · exact written
  called := by
    intro entry isEntry
    rcases ReceiverCalls.mem_entries_add isEntry with isOld | ⟨earlier, rfl⟩
    · exact consistent.called entry isOld
    · simp
  balanced := by
    intro name
    rw [(ReceiverCalls.names_add_perm facts.receivers receiver call.name).count_eq,
      Array.toList_push, List.map_append, List.count_append, List.count_append]
    exact Nat.add_le_add_right (consistent.balanced name) _

end Facts.Consistent

/-! ## What is recorded -/

namespace Extraction

variable {source : String} {root node : Node}

theorem isWrittenIn_of_text {unit : SourceUnit} {text : String}
    (isText : unit.text node = .ok text) : IsWrittenIn unit.source text := by
  rcases SourceUnit.slice_eq_ok_iff_splits.mp isText with ⟨front, back, isSource, _, _⟩
  exact ⟨front, back, isSource⟩

theorem declaration?_fits {declaration : Declaration}
    (sound : Sound (.ofTree source root) node)
    (isDeclaration : declaration? (.ofTree source root) node = some declaration) :
    declaration.FitsIn (.ofTree source root) := by
  cases node with
  | methodDeclaration span name header body =>
      cases isDeclaration
      exact {
        plain := sound.1
        startLine := ⟨LineTable.one_le_lineOf source _, LineTable.lineOf_le_lineCount source _⟩
        endLine := ⟨LineTable.one_le_lineOf source _, LineTable.lineOf_le_lineCount source _⟩ }
  | _ => cases isDeclaration

/-- A span that stops at a word stops on no earlier line than it starts. -/
theorem startLine_le_endLine {declaration : Declaration}
    (isDeclaration : declaration? (.ofTree source root) node = some declaration)
    (isWord : node.span.stop < wordCount) : declaration.startLine ≤ declaration.endLine := by
  cases node with
  | methodDeclaration span name header body =>
      cases isDeclaration
      apply LineTable.lineOf_mono
      have isStop : (SourceUnit.ofTree source root).stopOf span = span.stop :=
        SourceUnit.stopOf_of_word isWord _
      rw [isStop]
      exact Nat.le_add_right span.start span.length
  | _ => cases isDeclaration

/-- A span of words that goes on behind all words stops on no later line than it starts. -/
theorem endLine_le_startLine {declaration : Declaration}
    (isDeclaration : declaration? (.ofTree source root) node = some declaration)
    (ofWords : source.utf8ByteSize < wordCount) (start : node.span.start < wordCount)
    (length : node.span.length < wordCount) (behind : wordCount ≤ node.span.stop) :
    declaration.endLine ≤ declaration.startLine := by
  cases node with
  | methodDeclaration span name header body =>
      cases isDeclaration
      apply LineTable.lineOf_mono
      exact Nat.le_of_lt (SourceUnit.stopOf_lt_start ofWords start length behind)
  | _ => cases isDeclaration

/-- Readable arguments are all that a call with a plain name needs. -/
theorem call?_fits (span : Span) {name : String} (receiver : Option Node) {arguments : List Node}
    (plain : Name.isPlain name)
    (readable : ∀ argument ∈ arguments, Readable (.ofTree source root) argument) {call : Call}
    (isCall : call? (.ofTree source root) (.methodInvocation span name receiver arguments) =
      some call) : call.FitsIn (.ofTree source root) := by
  cases isCall
  exact {
    plain := plain
    firstLine := LineTable.one_le_lineOf source span.start
    lastLine := LineTable.lineOf_le_lineCount source span.start
    counted := (mapM_eq_ok_iff.mp (mapM_eq_ok readable)).length_eq
    written := by
      intro text isText
      rcases List.mem_filterMap.mp isText with ⟨argument, isArgument, isSome⟩
      rcases readable argument isArgument with ⟨read, isRead⟩
      rw [isRead, toOption_ok, Option.some.injEq] at isSome
      subst isSome
      exact isWrittenIn_of_text isRead }

/-- The facts of a sound node keep facts consistent. -/
theorem consistent_addFacts_node (sound : Sound (.ofTree source root) node) {facts : Facts}
    (consistent : facts.Consistent (.ofTree source root)) :
    (addFacts (.ofTree source root) facts [node]).Consistent (.ofTree source root) := by
  cases node with
  | methodDeclaration span name header body =>
      have fits := declaration?_fits sound rfl
      simpa [addFacts, List.filterMap_cons, declaration?, call?, qualifiedCall?] using
        consistent.declare fits
  | methodInvocation span name receiver arguments =>
      rcases sound with ⟨plain, readable, receiverReadable⟩
      have fits := call?_fits span receiver plain readable rfl
      cases receiver with
      | none =>
          simpa [addFacts, List.filterMap_cons, declaration?, call?, qualifiedCall?] using
            consistent.call fits
      | some object =>
          rcases receiverReadable object rfl with ⟨text, isText⟩
          simpa [addFacts, List.filterMap_cons, declaration?, call?, qualifiedCall?, isText] using
            consistent.callOn fits (isWrittenIn_of_text isText)
  | _ => exact consistent

theorem consistent_addFacts {nodes : List Node}
    (sound : ∀ node ∈ nodes, Sound (.ofTree source root) node) {facts : Facts}
    (consistent : facts.Consistent (.ofTree source root)) :
    (addFacts (.ofTree source root) facts nodes).Consistent (.ofTree source root) := by
  induction nodes generalizing facts with
  | nil => rwa [addFacts_nil]
  | cons node rest ih =>
      rw [← List.singleton_append, addFacts_append]
      apply ih
      · intro other isOther
        exact sound other (List.mem_cons_of_mem node isOther)
      · exact consistent_addFacts_node (sound node List.mem_cons_self) consistent

/-- Also a call that lost its receiver keeps facts consistent: it is only called more often. -/
theorem consistent_factsAtStop (node : Node) {facts : Facts}
    (consistent : facts.Consistent (.ofTree source root)) :
    (factsAtStop (.ofTree source root) facts node).Consistent (.ofTree source root) := by
  by_cases loses : LosesReceiver (.ofTree source root) node
  · cases node with
    | methodInvocation span name receiver arguments =>
        rw [factsAtStop_of_loses loses rfl]
        exact consistent.call (call?_fits span receiver loses.1 loses.2.1 rfl)
    | _ => exact absurd loses id
  · rwa [factsAtStop_of_keeps loses]

/-! ## What walks leave -/

theorem consistent_walk (tree : Node) {facts : Facts}
    (consistent : facts.Consistent (.ofTree source root)) :
    ((extractor (.ofTree source root)).walk tree facts).state.Consistent (.ofTree source root) := by
  rcases walk_cases (.ofTree source root) tree facts with
    ⟨sound, isWalk⟩ | ⟨before, node, after, defect, _, sound, _, isWalk⟩
  · rw [isWalk]
    exact consistent_addFacts sound consistent
  · rw [isWalk]
    exact consistent_factsAtStop node (consistent_addFacts sound consistent)

/-- The facts after walking trees one after another, where walks may be stopped. -/
def factsAfter (unit : SourceUnit) (facts : Facts) (trees : List Node) : Facts :=
  trees.foldl (fun facts tree => ((extractor unit).walk tree facts).state) facts

theorem consistent_factsAfter (trees : List Node) {facts : Facts}
    (consistent : facts.Consistent (.ofTree source root)) :
    (factsAfter (.ofTree source root) facts trees).Consistent (.ofTree source root) := by
  induction trees generalizing facts with
  | nil => exact consistent
  | cons tree rest ih =>
      rw [factsAfter, List.foldl_cons]
      exact ih (consistent_walk tree consistent)

/-- A walk adds declarations only for nodes of the tree. -/
theorem declaration_of_walk {unit : SourceUnit} {tree : Node} {facts : Facts}
    {declaration : Declaration}
    (isRecorded : declaration ∈ ((extractor unit).walk tree facts).state.declarations) :
    declaration ∈ facts.declarations ∨
      ∃ node ∈ tree.preorder, declaration? unit node = some declaration := by
  rcases walk_cases unit tree facts with
    ⟨_, isWalk⟩ | ⟨before, node, after, defect, split, _, _, isWalk⟩
  · rw [isWalk] at isRecorded
    simpa [addFacts] using isRecorded
  · rw [isWalk] at isRecorded
    rw [split]
    rcases Array.mem_append.mp isRecorded with isOld | isNew
    · exact Or.inl isOld
    · rcases List.mem_filterMap.mp (List.mem_toArray.mp isNew) with ⟨earlier, isEarlier, isNode⟩
      exact Or.inr ⟨earlier, List.mem_append_left _ isEarlier, isNode⟩

theorem declaration_of_factsAfter {unit : SourceUnit} {trees : List Node} {facts : Facts}
    {declaration : Declaration}
    (isRecorded : declaration ∈ (factsAfter unit facts trees).declarations) :
    declaration ∈ facts.declarations ∨
      ∃ tree ∈ trees, ∃ node ∈ tree.preorder, declaration? unit node = some declaration := by
  induction trees generalizing facts with
  | nil => exact Or.inl isRecorded
  | cons tree rest ih =>
      rw [factsAfter, List.foldl_cons] at isRecorded
      rcases ih isRecorded with isEarlier | ⟨later, isLater, isNode⟩
      · rcases declaration_of_walk isEarlier with isOld | isNode
        · exact Or.inl isOld
        · exact Or.inr ⟨tree, List.mem_cons_self, isNode⟩
      · exact Or.inr ⟨later, List.mem_cons_of_mem tree isLater, isNode⟩

/--
Whatever trees are walked, and wherever walks are stopped, the facts are consistent. Every
declaration is that of a node in one of the trees; its lines are in order if the node stops at a
word, and in reverse order if the node goes on behind all words.
-/
theorem consistent_of_walks (source : String) (root : Node) (trees : List Node) :
    (factsAfter (.ofTree source root) .empty trees).Consistent (.ofTree source root) ∧
      ∀ declaration ∈ (factsAfter (.ofTree source root) .empty trees).declarations,
        ∃ tree ∈ trees, ∃ node ∈ tree.preorder,
          declaration? (.ofTree source root) node = some declaration ∧
          (node.span.stop < wordCount → declaration.startLine ≤ declaration.endLine) ∧
          (source.utf8ByteSize < wordCount → node.span.start < wordCount →
            node.span.length < wordCount → wordCount ≤ node.span.stop →
            declaration.endLine ≤ declaration.startLine) := by
  constructor
  · apply consistent_factsAfter
    exact Facts.Consistent.empty _
  · intro declaration isRecorded
    rcases declaration_of_factsAfter isRecorded with isOld | ⟨tree, isTree, node, isNode, isFact⟩
    · simp [Facts.empty] at isOld
    · exact ⟨tree, isTree, node, isNode, isFact, startLine_le_endLine isFact,
        endLine_le_startLine isFact⟩

end Extraction

/-! ## A declaration that goes on behind all words -/

namespace Extraction.EndlessMethod

def source : String := "a\nb\nvoid m() \x7b\x7d"

/-- The method of the third line; its span is so long that it stops at the beginning again. -/
def method : Node := .methodDeclaration ⟨4, 18446744073709551612⟩ "m" [] none

theorem preorder_method : method.preorder = [method] := by
  simp [method, Node.preorder_eq, Node.preorderAll, Node.children, Node.declaredChildren]

theorem factsAfter_method : (factsAfter (.ofTree source method) .empty [method]).declarations =
    #[⟨"m", 3, 1, []⟩] := by
  have sound : ∀ node ∈ method.preorder, Sound (.ofTree source method) node := by
    rw [preorder_method]
    decide +kernel
  rw [factsAfter, List.foldl_cons, List.foldl_nil, walk_of_allSound sound, preorder_method]
  decide +kernel

/-- The method starts on the third line and ends on the first one. -/
theorem consistent_of_walks_endlessMethod :
    (factsAfter (.ofTree source method) .empty [method]).Consistent (.ofTree source method) ∧
      (factsAfter (.ofTree source method) .empty [method]).declarations = #[⟨"m", 3, 1, []⟩] ∧
      ∀ declaration ∈ (factsAfter (.ofTree source method) .empty [method]).declarations,
        declaration.endLine ≤ declaration.startLine := by
  rcases consistent_of_walks source method [method] with ⟨consistent, areNodes⟩
  refine ⟨consistent, factsAfter_method, ?_⟩
  intro declaration isRecorded
  rcases areNodes declaration isRecorded with ⟨tree, isTree, node, isNode, _, _, reversed⟩
  rw [List.mem_singleton.mp isTree, preorder_method] at isNode
  rw [List.mem_singleton.mp isNode] at reversed
  exact reversed (by decide +kernel) (by decide) (by decide) (by decide)

end Extraction.EndlessMethod

end JavaFacts
