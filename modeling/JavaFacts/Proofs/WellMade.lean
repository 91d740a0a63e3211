import JavaFacts.Proofs.ConcreteNodes
import JavaFacts.Proofs.Extraction
import JavaFacts.Source.Parse
import JavaFacts.Text.IdentifierCodes

/-!
# What parsing makes sure of

Every node of a tree that was parsed starts and stops at a position of the source, also if the
source was made the body of a class and the offsets were shifted back. Its method, if it has one, is
named by an identifier, and if it declares variables it does so by fragments only.

How a text becomes a concrete tree is a parameter here, of which `FollowsGrammar` says what is used.
-/

namespace JavaFacts

open InOrder Extraction

/-! ## Identifiers -/

namespace Name

open JavaFacts.Text

/-- Whether an identifier of the grammar can begin with a character. -/
def beginsIdentifier (character : Char) : Bool :=
  identifierStarts.hasChar character || character == '_' || character == '$'

/-- Whether an identifier of the grammar can go on with a character. -/
def continuesIdentifier (character : Char) : Bool :=
  identifierParts.hasChar character || character == '_' || character == '$' || character == '\u00A2'

/-- Whether a text is an identifier of the grammar. -/
def isIdentifier (name : String) : Bool :=
  match name.toList with
  | [] => false
  | first :: rest => beginsIdentifier first && rest.all continuesIdentifier

end Name

/-- The name of the method that a node declares or calls. -/
def Node.methodName? : Node → Option String
  | methodDeclaration _ name _ _ => some name
  | methodInvocation _ name _ _ => some name
  | _ => none

/-! ## Positions -/

/-- An offset of a text at which no character is cut. -/
def IsPosition (text : String) (offset : Nat) : Prop := String.Pos.Raw.IsValid text ⟨offset⟩

instance (text : String) (offset : Nat) : Decidable (IsPosition text offset) :=
  inferInstanceAs (Decidable (String.Pos.Raw.IsValid text ⟨offset⟩))

theorem isPosition_zero (text : String) : IsPosition text 0 := String.Pos.Raw.isValid_zero

theorem isPosition_end (text : String) : IsPosition text text.utf8ByteSize :=
  String.Pos.Raw.isValid_rawEndPos

theorem pos?_isSome_iff {text : String} {offset : Nat} :
    (text.pos? ⟨offset⟩).isSome ↔ IsPosition text offset := by
  rw [String.pos?, String.Slice.pos?, Option.isSome_map, IsPosition]
  split
  · next isValid =>
    rw [String.Pos.Raw.isValidForSlice_eq_true_iff,
      String.Pos.Raw.isValidForSlice_toSlice_iff] at isValid
    simpa using isValid
  · next notValid =>
    rw [String.Pos.Raw.isValidForSlice_eq_true_iff,
      String.Pos.Raw.isValidForSlice_toSlice_iff] at notValid
    simpa using notValid

theorem offset_of_pos? {text : String} {offset : Nat} {position : text.Pos}
    (isThere : text.pos? ⟨offset⟩ = some position) : position.offset.byteIdx = offset := by
  rw [String.pos?, String.Slice.pos?] at isThere
  split at isThere
  · cases isThere
    rfl
  · cases isThere

theorem SourceUnit.exists_slice_of_isPosition {unit : SourceUnit} {span : Span}
    (start : IsPosition unit.source span.start) (stop : IsPosition unit.source span.stop) :
    ∃ text, unit.slice span = .ok text := by
  rcases Option.isSome_iff_exists.mp (pos?_isSome_iff.mpr start) with ⟨first, isFirst⟩
  rcases Option.isSome_iff_exists.mp (pos?_isSome_iff.mpr stop) with ⟨last, isLast⟩
  refine ⟨unit.source.extract first last, ?_⟩
  rw [slice, isFirst, isLast]

theorem Extraction.readable_of_isPosition {unit : SourceUnit} {node : Node}
    (start : IsPosition unit.source node.span.start)
    (stop : IsPosition unit.source node.span.stop) : Readable unit node :=
  SourceUnit.exists_slice_of_isPosition start stop

theorem isPosition_stop_ofBounds {text : String} {start stop : Nat}
    (isStart : IsPosition text start) (isStop : IsPosition text stop) :
    IsPosition text (Span.ofBounds start stop).stop := by
  rw [Span.ofBounds, Span.stop]
  rcases Nat.le_total start stop with ordered | reversed
  · rwa [Nat.add_sub_cancel' ordered]
  · rwa [Nat.sub_eq_zero_of_le reversed, Nat.add_zero]

/-- A position within a source that was made the body of a class is one of the source. -/
theorem SourceUnit.isPosition_of_wrap {source : String} {offset : Nat}
    (isPosition : IsPosition (wrap source) offset)
    (afterOpen : implicitClassOpen.utf8ByteSize ≤ offset)
    (beforeClose : offset ≤ implicitClassOpen.utf8ByteSize + source.utf8ByteSize) :
    IsPosition source (offset - implicitClassOpen.utf8ByteSize) := by
  rcases String.Pos.Raw.isValid_append.mp isPosition with inFront | ⟨behind, _⟩
  · rcases String.Pos.Raw.isValid_append.mp inFront with inOpen | ⟨_, inSource⟩
    · have atStart : offset = implicitClassOpen.utf8ByteSize :=
        Nat.le_antisymm inOpen.le_rawEndPos afterOpen
      rw [atStart, Nat.sub_self]
      exact isPosition_zero source
    · exact inSource
  · have atEnd : offset = implicitClassOpen.utf8ByteSize + source.utf8ByteSize := by
      apply Nat.le_antisymm beforeClose
      rw [← String.utf8ByteSize_append]
      exact behind
    rw [atEnd, Nat.add_sub_cancel_left]
    exact isPosition_end source

/-! ## From concrete nodes to nodes -/

namespace Lowering

open ConcreteTree

/-- The kinds of nodes that become declarations or calls of methods. -/
def methodKinds : List String :=
  ["method_declaration", "constructor_declaration", "method_invocation"]

/-- If a node declares local variables, it does so by declarators only. -/
def DeclaresByDeclarators (tree : ConcreteTree) : Prop :=
  tree.kind = "local_variable_declaration" →
    ∀ child ∈ tree.fieldChildren "declarator", child.kind = "variable_declarator"

/-- What the grammar makes sure of at a node of the tree of a text. -/
structure Regular (text : String) (tree : ConcreteTree) : Prop where
  start : IsPosition text tree.label.start
  stop : IsPosition text tree.label.stop
  ordered : tree.label.start ≤ tree.label.stop
  /-- A method is named by an identifier. -/
  named : tree.kind ∈ methodKinds →
    ∀ nameTree ∈ tree.fieldChild? "name", nameTree.kind = "identifier"
  spelled : tree.kind = "identifier" →
    ∀ name, Text.Utf8.decode (text.toUTF8.extract tree.label.start tree.label.stop) = .ok name →
      Name.isIdentifier name
  declarators : DeclaresByDeclarators tree

/-- What is used of a node when it is lowered: without the shift it lies in the source. -/
structure Admissible (source : String) (setting : Setting) (tree : ConcreteTree) : Prop where
  start : IsPosition source (tree.label.start - setting.shift)
  stop : IsPosition source (tree.label.stop - setting.shift)
  named : tree.kind ∈ methodKinds →
    ∀ nameTree ∈ tree.fieldChild? "name", ∀ name, setting.text nameTree = .ok name →
      Name.isIdentifier name
  declarators : DeclaresByDeclarators tree

theorem admissible_of_regular {text source : String} {shift : Nat} {tree : ConcreteTree}
    (regular : ∀ inner ∈ tree.preorder, Regular text inner)
    (start : IsPosition source (tree.label.start - shift))
    (stop : IsPosition source (tree.label.stop - shift)) :
    Admissible source ⟨text.toUTF8, shift⟩ tree := by
  have isRegular := regular tree tree.mem_preorder_self
  refine ⟨start, stop, ?_, isRegular.declarators⟩
  intro isMethod nameTree hasName name isName
  have isBelow := mem_preorder_of_mem_children (mem_children_of_fieldChild? hasName)
  apply (regular nameTree isBelow).spelled (isRegular.named isMethod nameTree hasName)
  rw [Setting.text] at isName
  split at isName
  · next text isText =>
    cases isName
    exact isText
  · cases isName

/-- What parsing makes sure of at a node of a tree of the source. -/
structure WellMade (source : String) (node : Node) : Prop where
  start : IsPosition source node.span.start
  stop : IsPosition source node.span.stop
  named : ∀ name ∈ node.methodName?, Name.isIdentifier name
  fragments : DeclaresByFragments node

theorem span_of_lowers {setting : Setting} {tree : ConcreteTree} {node : Node}
    (lowers : Lowers setting tree node) : node.span = setting.span tree := by
  cases lowers <;> rfl

theorem Setting.stop_spanOf (setting : Setting) {start stop : Nat} (ordered : start ≤ stop) :
    (setting.spanOf start stop).stop = stop - setting.shift := by
  simp only [Setting.spanOf, Span.ofBounds, Span.stop]
  omega

theorem mem_methodKinds_of_declaration {kind : String}
    (isKind : kind = "method_declaration" ∨ kind = "constructor_declaration") :
    kind ∈ methodKinds := by
  rcases isKind with rfl | rfl <;> simp [methodKinds]

theorem methodName_of_lowers {setting : Setting} {tree : ConcreteTree} {node : Node} {name : String}
    (lowers : Lowers setting tree node) (isName : name ∈ node.methodName?) :
    tree.kind ∈ methodKinds ∧ ∃ nameTree ∈ tree.fieldChild? "name",
      setting.text nameTree = .ok name := by
  cases lowers with
  | bodiless isKind hasName isText =>
      cases isName
      exact ⟨mem_methodKinds_of_declaration isKind, _, hasName, isText⟩
  | declaration isKind hasName isText =>
      cases isName
      exact ⟨mem_methodKinds_of_declaration isKind, _, hasName, isText⟩
  | call isKind hasName isText =>
      cases isName
      exact ⟨by simp [methodKinds, isKind], _, hasName, isText⟩
  | callOn isKind hasName isText =>
      cases isName
      exact ⟨by simp [methodKinds, isKind], _, hasName, isText⟩
  | callOnSuper isKind hasName isText =>
      cases isName
      exact ⟨by simp [methodKinds, isKind], _, hasName, isText⟩
  | _ => cases isName

theorem isFragment_of_lowers {setting : Setting} {tree : ConcreteTree} {node : Node}
    (isDeclarator : tree.kind = "variable_declarator") (lowers : Lowers setting tree node) :
    IsFragment node := by
  cases lowers with
  | uninitialized => trivial
  | initialized => trivial
  | literal isLiteral =>
      rw [isDeclarator] at isLiteral
      cases isLiteral
  | expression notDedicated => exact absurd (by simp [dedicatedKinds, isDeclarator]) notDedicated
  | _ => simp_all

theorem declaresByFragments_of_lowers {setting : Setting} {tree : ConcreteTree} {node : Node}
    (declarators : DeclaresByDeclarators tree) (lowers : Lowers setting tree node) :
    DeclaresByFragments node := by
  cases lowers with
  | variableDeclaration isKind fragmentsLower =>
      intro fragment isThere
      rcases exists_of_mem_right fragmentsLower isThere with ⟨child, isChild, childLowers⟩
      exact isFragment_of_lowers (declarators isKind child isChild) childLowers
  | _ => trivial

theorem isPosition_span_of_lowers {source : String} {setting : Setting} {tree : ConcreteTree}
    {node : Node} (isStart : IsPosition source (tree.label.start - setting.shift))
    (isStop : IsPosition source (tree.label.stop - setting.shift))
    (lowers : Lowers setting tree node) :
    IsPosition source node.span.start ∧ IsPosition source node.span.stop := by
  rw [span_of_lowers lowers]
  exact ⟨isStart, isPosition_stop_ofBounds isStart isStop⟩

theorem isPosition_span_of_standsForSuper {source : String} {setting : Setting}
    {tree : ConcreteTree} {node : Node}
    (isStart : ∀ inner ∈ tree.preorder, IsPosition source (inner.label.start - setting.shift))
    (isStop : ∀ inner ∈ tree.preorder, IsPosition source (inner.label.stop - setting.shift))
    (standsForSuper : StandsForSuper setting tree node) :
    IsPosition source node.span.start ∧ IsPosition source node.span.stop := by
  cases standsForSuper with
  | intro isKind hasObject isReceiver receiverLowers =>
      rcases receiverOn_eq_qualifiedSuper isReceiver with ⟨superTree, isSuper, rfl⟩
      have atObject := isStart _
        (mem_preorder_of_mem_children (mem_children_of_fieldChild? hasObject))
      have atSuper := isStop _ (mem_preorder_of_mem_children (mem_children_of_mem_supers isSuper))
      exact ⟨atObject, isPosition_stop_ofBounds atObject atSuper⟩

/-- A node that is lowered from an admissible tree is well made. -/
theorem wellMade_of_lowers {source : String} {setting : Setting} {tree : ConcreteTree} {node : Node}
    (admissible : Admissible source setting tree) (lowers : Lowers setting tree node) :
    WellMade source node := by
  rcases isPosition_span_of_lowers admissible.start admissible.stop lowers with ⟨start, stop⟩
  refine ⟨start, stop, ?_, declaresByFragments_of_lowers admissible.declarators lowers⟩
  intro name isName
  rcases methodName_of_lowers lowers isName with ⟨isMethod, nameTree, hasName, isText⟩
  exact admissible.named isMethod nameTree hasName name isText

theorem wellMade_of_standsForSuper {source : String} {setting : Setting} {tree : ConcreteTree}
    {node : Node} (admissible : ∀ inner ∈ tree.preorder, Admissible source setting inner)
    (standsForSuper : StandsForSuper setting tree node) : WellMade source node := by
  rcases isPosition_span_of_standsForSuper (fun inner isInner => (admissible inner isInner).start)
    (fun inner isInner => (admissible inner isInner).stop) standsForSuper with ⟨start, stop⟩
  cases standsForSuper
  exact ⟨start, stop, by simp [Node.methodName?], trivial⟩

end Lowering

/-! ## Sources that were parsed -/

namespace SourceUnit

open Lowering ConcreteTree

/-- A source is parsed by lowering the tree of it, or the body of the class that it is made. -/
theorem exists_items_of_parseWith {concrete : String → ConcreteTree} {source : String}
    {unit : SourceUnit} (parsed : parseWith concrete source = .ok unit) :
    ∃ items, unit = ofItems source items ∧
      ((concrete source).label.hasError = false ∧
          lowerParts ⟨source.toUTF8, 0⟩ (concrete source) = .ok items ∨
        ∃ body, implicitBody? (concrete (wrap source)) = some body ∧
          lowerParts ⟨(wrap source).toUTF8, implicitClassOpen.utf8ByteSize⟩ body = .ok items) := by
  simp only [parseWith] at parsed
  split at parsed
  · next noFault =>
    split at parsed
    · next items isLowered =>
      cases parsed
      refine ⟨items, rfl, Or.inl ⟨?_, isLowered⟩⟩
      rw [Diagnosis.firstFault] at noFault
      split at noFault
      · split at noFault <;> cases noFault
      · next noError => simpa using noError
    · cases parsed
  · split at parsed
    · cases parsed
    · next body isBody =>
      split at parsed
      · next items isLowered =>
        cases parsed
        exact ⟨items, rfl, Or.inr ⟨body, isBody, isLowered⟩⟩
      · cases parsed

/-- The body that is parsed is that of the only named child of the root, which is a class. -/
theorem exists_class_of_implicitBody? {root body : ConcreteTree}
    (isBody : implicitBody? root = some body) :
    root.label.hasError = false ∧ ∃ classTree ∈ root.children,
      root.children.filter (·.label.named) = [classTree] ∧
        classTree.kind = "class_declaration" ∧ classTree.fieldChild? "body" = some body := by
  rw [implicitBody?] at isBody
  split at isBody
  · cases isBody
  next noError =>
  split at isBody
  · next classTree isOnly =>
    split at isBody
    · next isClass =>
      have isChild : classTree ∈ root.children := by
        apply List.mem_of_mem_filter
        rw [isOnly]
        exact List.mem_singleton_self classTree
      exact ⟨by simpa using noError, classTree, isChild, isOnly, isClass, isBody⟩
    · cases isBody
  · cases isBody

theorem implicitBody?_eq_some {root body : ConcreteTree} (isBody : implicitBody? root = some body) :
    root.label.hasError = false ∧ body ∈ root.preorder := by
  rcases exists_class_of_implicitBody? isBody with ⟨noError, classTree, isChild, _, _, hasBody⟩
  exact ⟨noError, mem_preorder_trans (mem_preorder_of_mem_children isChild)
    (mem_preorder_of_mem_children (mem_children_of_fieldChild? hasBody))⟩

/-- What is used of the trees that the grammar makes of texts. -/
structure FollowsGrammar (concrete : String → ConcreteTree) : Prop where
  regular : ∀ text, (concrete text).label.hasError = false →
    ∀ tree ∈ (concrete text).preorder, Regular text tree
  /-- What stands in the body of the class that a source is made lies in the source. -/
  enclosed : ∀ source body, implicitBody? (concrete (wrap source)) = some body →
    ∀ part ∈ body.parts, ∀ tree ∈ part.preorder,
      implicitClassOpen.utf8ByteSize ≤ tree.label.start ∧
        tree.label.stop ≤ implicitClassOpen.utf8ByteSize + source.utf8ByteSize

/-- What holds of the root and of every node that is lowered from a good tree holds of all nodes. -/
theorem forall_preorder_of_lowerParts {source : String} {setting : Setting} {root : ConcreteTree}
    {items : List Node} {good : ConcreteTree → Prop} {holds : Node → Prop}
    (isLowered : lowerParts setting root = .ok items)
    (areGood : ∀ part ∈ root.parts, ∀ tree ∈ part.preorder, good tree)
    (ofRoot : holds (ofItems source items).root)
    (ofLowers : ∀ tree node, (∀ inner ∈ tree.preorder, good inner) →
      Lowers setting tree node → holds node)
    (ofSuper : ∀ tree node, (∀ inner ∈ tree.preorder, good inner) →
      StandsForSuper setting tree node → holds node) :
    ∀ node ∈ (ofItems source items).root.preorder, holds node := by
  intro node isNode
  rw [(Node.preorder_perm_subtrees _).mem_iff, Node.subtrees_eq, List.mem_cons,
    List.mem_flatMap] at isNode
  rcases isNode with rfl | ⟨item, isItem, isBelow⟩
  · exact ofRoot
  · rcases exists_of_mem_right (lowerAll_eq_ok_iff.mp isLowered) isItem with
      ⟨part, isPart, partLowers⟩
    exact forall_subtrees_of_lowers ofLowers ofSuper (areGood part isPart) partLowers node isBelow

theorem isPosition_stop_root (source : String) (items : List Node) :
    IsPosition source (ofItems source items).root.span.stop := by
  simpa [ofItems, ofTree, Node.span, Span.stop] using isPosition_end source

theorem wellMade_of_lowerParts {source : String} {setting : Setting} {root : ConcreteTree}
    {items : List Node} (isLowered : lowerParts setting root = .ok items)
    (admissible : ∀ part ∈ root.parts, ∀ tree ∈ part.preorder, Admissible source setting tree) :
    ∀ node ∈ (ofItems source items).root.preorder, WellMade source node := by
  refine forall_preorder_of_lowerParts isLowered admissible ?_ ?_ ?_
  · exact ⟨isPosition_zero source, isPosition_stop_root source items,
      by simp [ofItems, ofTree, Node.methodName?], trivial⟩
  · intro tree node admissible lowers
    exact wellMade_of_lowers (admissible tree tree.mem_preorder_self) lowers
  · intro tree node admissible standsForSuper
    exact wellMade_of_standsForSuper admissible standsForSuper

/-- Every node of a tree that was parsed is well made, also if the source was made a class. -/
theorem wellMade_of_parseWith {concrete : String → ConcreteTree} (grammar : FollowsGrammar concrete)
    {source : String} {unit : SourceUnit} (parsed : parseWith concrete source = .ok unit) :
    ∀ node ∈ unit.root.preorder, WellMade unit.source node := by
  rcases exists_items_of_parseWith parsed with
    ⟨items, rfl, ⟨noError, isLowered⟩ | ⟨body, isBody, isLowered⟩⟩
  · apply wellMade_of_lowerParts isLowered
    intro part isPart tree isTree
    have isBelow := mem_preorder_trans
      (mem_preorder_of_mem_children (mem_children_of_mem_parts isPart)) isTree
    have regular : ∀ inner ∈ tree.preorder, Regular source inner := by
      intro inner isInner
      exact grammar.regular source noError inner (mem_preorder_trans isBelow isInner)
    have isRegular := regular tree tree.mem_preorder_self
    exact admissible_of_regular regular isRegular.start isRegular.stop
  · rcases implicitBody?_eq_some isBody with ⟨noError, bodyBelow⟩
    apply wellMade_of_lowerParts isLowered
    intro part isPart tree isTree
    have isBelow := mem_preorder_trans bodyBelow (mem_preorder_trans
      (mem_preorder_of_mem_children (mem_children_of_mem_parts isPart)) isTree)
    have regular : ∀ inner ∈ tree.preorder, Regular (wrap source) inner := by
      intro inner isInner
      exact grammar.regular (wrap source) noError inner (mem_preorder_trans isBelow isInner)
    have isRegular := regular tree tree.mem_preorder_self
    rcases grammar.enclosed source body isBody part isPart tree isTree with ⟨afterOpen, beforeClose⟩
    exact admissible_of_regular regular
      (isPosition_of_wrap isRegular.start afterOpen (Nat.le_trans isRegular.ordered beforeClose))
      (isPosition_of_wrap isRegular.stop (Nat.le_trans afterOpen isRegular.ordered) beforeClose)

end SourceUnit

end JavaFacts
