import Mathlib.Data.List.Permutation
import JavaFacts.Proofs.Lines
import JavaFacts.Proofs.Slices
import JavaFacts.Source.Analysis

/-!
# Sources that are parsed as the body of a class

A source that has an error by itself is parsed as the body of a class. Its nodes are lowered from
the tree of the longer text, and moved back to where they stand in the source. The longer text may
also be analysed for itself: then the same nodes are reached, at the places that they have there.

Both analyses give the same facts. The text before the source has no line end, so no line is
counted twice; names are read from one text and arguments are cut from the other, but from the same
bytes of it. Only behind a carriage return at the end of the source the lines would differ, since
the line feed after the source belongs to it then; no method stops there.
-/

namespace JavaFacts

open InOrder Extraction

namespace SourceUnit

/-! ## Lines -/

open LineTable

/-- A line of a source has the same number in the class, but behind a carriage return at the end. -/
theorem lineOf_wrap {source : String} {offset : Nat} (inSource : offset ≤ source.utf8ByteSize)
    (apart : offset = source.utf8ByteSize →
      ¬JoinsText (implicitClassOpen ++ source) implicitClassClose) :
    (ofText (wrap source)).lineOf (offset + implicitClassOpen.utf8ByteSize) =
      (ofText source).lineOf offset := by
  have noLineEnd : lineEnds implicitClassOpen.toUTF8.toList 0 = [] := by
    rw [toList_eq_data]
    decide
  have noJoin : ¬JoinsText implicitClassOpen source := by
    intro joins
    have isBlank : implicitClassOpen.toUTF8.toList.getLast? = some 32 := by
      rw [toList_eq_data]
      decide
    rw [JoinsText, Joins, isBlank] at joins
    exact absurd joins.1 (by decide)
  rw [wrap, lineOf_append_left, Nat.add_comm, lineOf_append_right noJoin, noLineEnd,
    List.length_nil, Nat.zero_add]
  · rw [String.utf8ByteSize_append]
    omega
  · intro atEnd
    rw [String.utf8ByteSize_append] at atEnd
    exact apart (by omega)

/-- The byte before an offset of the source, in the class. -/
def byteBefore? (source : String) (offset : Nat) : Option UInt8 :=
  (wrap source).toUTF8.toList[implicitClassOpen.utf8ByteSize + offset - 1]?

theorem byteBefore?_of_joins {source : String}
    (joins : JoinsText (implicitClassOpen ++ source) implicitClassClose) :
    byteBefore? source source.utf8ByteSize = some 13 := by
  have positive : 0 < implicitClassOpen.utf8ByteSize := by decide
  rw [byteBefore?, wrap, toList_toUTF8_append, ← String.utf8ByteSize_append,
    ← length_toList_toUTF8 (implicitClassOpen ++ source), List.getElem?_append_left,
    ← List.getLast?_eq_getElem?]
  · exact joins.1
  · rw [length_toList_toUTF8, String.utf8ByteSize_append]
    omega

/-! ## What the class holds -/

open Lowering ConcreteTree

/-- A node in the body of the class lies in the source. -/
structure Enclosed (source : String) (tree : ConcreteTree) : Prop where
  start : IsPosition (wrap source) tree.label.start
  stop : IsPosition (wrap source) tree.label.stop
  ordered : tree.label.start ≤ tree.label.stop
  afterOpen : implicitClassOpen.utf8ByteSize ≤ tree.label.start
  beforeClose : tree.label.stop ≤ implicitClassOpen.utf8ByteSize + source.utf8ByteSize
  /-- A method does not stop behind a carriage return. -/
  noReturn : tree.kind ∈ methodKinds →
    (wrap source).toUTF8.toList[tree.label.stop - 1]? ≠ some 13

/-- A class whose parts are just its name, which has no children, and its body. -/
structure IsPlainClass (tree nameTree body : ConcreteTree) : Prop where
  notExtra : tree.label.extra = false
  parts : tree.parts = [nameTree, body]
  isName : nameTree.kind = "identifier"
  noChildren : nameTree.children = []
  hasBody : tree.fieldChild? "body" = some body
  isBody : body.kind = "class_body"

/-- What is used of the tree of a source that was made the body of a class. -/
structure IsClassOf (source : String) (root : ConcreteTree) : Prop where
  plain : ∀ tree ∈ root.children, tree.kind = "class_declaration" →
    ∃ nameTree body, IsPlainClass tree nameTree body
  enclosed : ∀ body, implicitBody? root = some body →
    ∀ part ∈ body.parts, ∀ tree ∈ part.preorder, Enclosed source tree

/-- A node that stands at positions of the source; no method stops behind a carriage return. -/
structure Placed (source : String) (node : Node) : Prop where
  start : IsPosition source node.span.start
  stop : IsPosition source node.span.stop
  noReturn : node.methodName?.isSome → byteBefore? source node.span.stop ≠ some 13

namespace Enclosed

variable {source : String} {tree : ConcreteTree}

theorem start_shifted (enclosed : Enclosed source tree) :
    IsPosition source (tree.label.start - implicitClassOpen.utf8ByteSize) :=
  isPosition_of_wrap enclosed.start enclosed.afterOpen
    (Nat.le_trans enclosed.ordered enclosed.beforeClose)

theorem stop_shifted (enclosed : Enclosed source tree) :
    IsPosition source (tree.label.stop - implicitClassOpen.utf8ByteSize) :=
  isPosition_of_wrap enclosed.stop (Nat.le_trans enclosed.afterOpen enclosed.ordered)
    enclosed.beforeClose

theorem byteBefore?_stop (enclosed : Enclosed source tree) (bytes : ByteArray) :
    byteBefore? source (Setting.span ⟨bytes, implicitClassOpen.utf8ByteSize⟩ tree).stop =
      (wrap source).toUTF8.toList[tree.label.stop - 1]? := by
  have afterOpen := Nat.le_trans enclosed.afterOpen enclosed.ordered
  rw [byteBefore?, Setting.span, Setting.stop_spanOf _ enclosed.ordered,
    Nat.add_sub_cancel' afterOpen]

end Enclosed

theorem placed_of_lowers {source : String} {bytes : ByteArray} {tree : ConcreteTree} {node : Node}
    (enclosed : Enclosed source tree)
    (lowers : Lowers ⟨bytes, implicitClassOpen.utf8ByteSize⟩ tree node) : Placed source node := by
  rcases isPosition_span_of_lowers enclosed.start_shifted enclosed.stop_shifted lowers with
    ⟨start, stop⟩
  refine ⟨start, stop, ?_⟩
  intro isMethod
  rcases Option.isSome_iff_exists.mp isMethod with ⟨name, isName⟩
  rw [span_of_lowers lowers, enclosed.byteBefore?_stop]
  exact enclosed.noReturn (methodName_of_lowers lowers isName).1

theorem placed_of_standsForSuper {source : String} {bytes : ByteArray} {tree : ConcreteTree}
    {node : Node} (enclosed : ∀ inner ∈ tree.preorder, Enclosed source inner)
    (standsForSuper : StandsForSuper ⟨bytes, implicitClassOpen.utf8ByteSize⟩ tree node) :
    Placed source node := by
  rcases isPosition_span_of_standsForSuper
    (fun inner isInner => (enclosed inner isInner).start_shifted)
    (fun inner isInner => (enclosed inner isInner).stop_shifted) standsForSuper with ⟨start, stop⟩
  cases standsForSuper
  exact ⟨start, stop, by simp [Node.methodName?]⟩

theorem placed_of_lowerParts {source : String} {bytes : ByteArray} {body : ConcreteTree}
    {items : List Node}
    (isLowered : lowerParts ⟨bytes, implicitClassOpen.utf8ByteSize⟩ body = .ok items)
    (enclosed : ∀ part ∈ body.parts, ∀ tree ∈ part.preorder, Enclosed source tree) :
    ∀ node ∈ (ofItems source items).root.preorder, Placed source node := by
  refine forall_preorder_of_lowerParts isLowered enclosed ?_ ?_ ?_
  · exact ⟨isPosition_zero source, isPosition_stop_root source items,
      by simp [ofItems, ofTree, Node.methodName?]⟩
  · intro tree node enclosed lowers
    exact placed_of_lowers (enclosed tree tree.mem_preorder_self) lowers
  · intro tree node enclosed standsForSuper
    exact placed_of_standsForSuper enclosed standsForSuper

/-- Where a method of the source stands in the class, lines and texts are those of the source. -/
theorem alike_of_placed {source : String} {root wrappedRoot node : Node}
    (placed : ∀ inner ∈ root.preorder, Placed source inner) (isMethod : node ∈ root.methods) :
    Alike (ofTree source root) (ofTree (wrap source) wrappedRoot) implicitClassOpen.utf8ByteSize
      node := by
  rcases List.mem_filter.mp isMethod with ⟨isNode, hasName⟩
  have here := placed node isNode
  have noJoin : node.span.stop = source.utf8ByteSize →
      ¬JoinsText (implicitClassOpen ++ source) implicitClassClose := by
    intro atEnd joins
    apply here.noReturn hasName
    rw [atEnd, byteBefore?_of_joins joins]
  refine ⟨?_, ?_, ?_⟩
  · apply lineOf_wrap here.start.le_size
    intro atEnd
    -- A method that starts at the end of the source stops there too.
    have ordered : node.span.start ≤ node.span.stop := Nat.le_add_right _ _
    exact noJoin (Nat.le_antisymm here.stop.le_size (atEnd ▸ ordered))
  · -- Where the method stops is an offset, both in the source and in the class.
    have inSource : (ofTree source root).stopOf node.span = node.span.stop :=
      stopOf_of_inside here.stop.le_size
    have inClass : (ofTree (wrap source) wrappedRoot).stopOf
        (node.span.moved implicitClassOpen.utf8ByteSize) =
          (node.span.moved implicitClassOpen.utf8ByteSize).stop := by
      apply stopOf_of_inside
      have := here.stop.le_size
      rw [Span.stop_moved, ofTree, wrap, String.utf8ByteSize_append, String.utf8ByteSize_append]
      omega
    rw [inSource, inClass, Span.stop_moved]
    exact lineOf_wrap here.stop.le_size noJoin
  · intro child isChild
    have isPlaced := placed child (Node.mem_preorder_of_mem_declaredChildren isNode isChild)
    exact text_moved rfl isPlaced.start isPlaced.stop

/-! ## Both analyses -/

/-- The node of the class, with what the source is lowered to in its body. -/
def classNode (setting : Setting) (tree nameTree body : ConcreteTree) (items : List Node) : Node :=
  .expression (setting.span tree) tree.kind
    [.expression (setting.span nameTree) nameTree.kind [],
      .expression (setting.span body) body.kind items]

theorem lowers_of_kind {setting : Setting} {tree : ConcreteTree} {kind : String}
    {children : List Node} (isKind : tree.kind = kind) (notDedicated : kind ∉ dedicatedKinds)
    (noLiteral : LiteralKind.ofGrammarKind? kind = none)
    (partsLower : List.Forall₂ (Lowers setting) tree.parts children) :
    Lowers setting tree (.expression (setting.span tree) tree.kind children) := by
  subst isKind
  exact .expression notDedicated noLiteral partsLower

theorem lowers_class {setting : Setting} {tree nameTree body : ConcreteTree} {items : List Node}
    (isClass : tree.kind = "class_declaration") (plain : IsPlainClass tree nameTree body)
    (isLowered : lowerParts setting body = .ok items) :
    Lowers setting tree (classNode setting tree nameTree body items) := by
  have noParts : nameTree.parts = [] := by rw [parts, plain.noChildren, List.filter_nil]
  refine lowers_of_kind isClass (by decide) rfl ?_
  rw [plain.parts]
  refine .cons ?_ (.cons ?_ .nil)
  · refine lowers_of_kind plain.isName (by decide) rfl ?_
    rw [noParts]
    exact .nil
  · exact lowers_of_kind plain.isBody (by decide) rfl (lowerAll_eq_ok_iff.mp isLowered)

/-- The class adds no methods to those of the source. -/
theorem methods_class {setting : Setting} {tree nameTree body : ConcreteTree} {items : List Node}
    (source : String) (span : Span) (distance : Nat) :
    (Node.compilationUnit span
        [classNode setting tree nameTree body (items.map (Node.moved distance))]).methods =
      (ofItems source items).root.methods.map (Node.moved distance) := by
  have ofName : (Node.expression (setting.span nameTree) nameTree.kind []).methods = [] :=
    Node.methods_eq_nil_of_leaf rfl rfl
  have ofBody : (Node.expression (setting.span body) body.kind
      (items.map (Node.moved distance))).methods =
      (ofItems source items).root.methods.map (Node.moved distance) := by
    rw [← Node.methods_moved, Node.methods_eq_of_not_method rfl, Node.methods_eq_of_not_method]
    · rw [ofItems, ofTree, Node.children, Node.children, Node.declaredChildren_moved]
      rfl
    · rw [Node.methodName?_moved]
      rfl
  rw [Node.methods_eq_of_only_child rfl rfl, Node.methods_eq_of_not_method rfl]
  -- The name and the body may stand in any order; the name holds no method.
  rcases List.perm_pair.mp (classNode setting tree nameTree body
    (items.map (Node.moved distance))).children_perm with inOrder | swapped
  · rw [inOrder, List.flatMap_cons, List.flatMap_singleton, ofName, ofBody, List.nil_append]
  · rw [swapped, List.flatMap_cons, List.flatMap_singleton, ofName, ofBody, List.append_nil]

/-- A source with an error is parsed as the body of a class, if it can be. -/
theorem parseWith_of_implicitBody? {concrete : String → ConcreteTree} {source : String}
    {body : ConcreteTree} {items : List Node}
    (hasError : (concrete source).label.hasError = true)
    (isBody : implicitBody? (concrete (wrap source)) = some body)
    (isLowered : lowerParts ⟨(wrap source).toUTF8, implicitClassOpen.utf8ByteSize⟩ body =
      .ok items) :
    parseWith concrete source = .ok (ofItems source items) := by
  have hasFault : ∃ fault, Diagnosis.firstFault source (concrete source) = some fault := by
    rw [Diagnosis.firstFault, if_pos hasError]
    split
    · exact ⟨_, rfl⟩
    · exact ⟨_, rfl⟩
  rcases hasFault with ⟨fault, isFault⟩
  simp only [parseWith, isFault, isBody, isLowered]

/-- A source that was made the body of a class is parsed as such a class. -/
theorem parseWith_wrap {concrete : String → ConcreteTree} {source : String}
    {body : ConcreteTree} {items : List Node}
    (isClassOf : IsClassOf source (concrete (wrap source)))
    (isBody : implicitBody? (concrete (wrap source)) = some body)
    (isLowered : lowerParts ⟨(wrap source).toUTF8, implicitClassOpen.utf8ByteSize⟩ body =
      .ok items) :
    ∃ tree nameTree, parseWith concrete (wrap source) =
      .ok (ofItems (wrap source) [classNode ⟨(wrap source).toUTF8, 0⟩ tree nameTree body
        (items.map (Node.moved implicitClassOpen.utf8ByteSize))]) := by
  rcases exists_class_of_implicitBody? isBody with
    ⟨noError, tree, isChild, isOnly, isClass, hasBody⟩
  rcases isClassOf.plain tree isChild isClass with ⟨nameTree, otherBody, plain⟩
  have sameBody : otherBody = body := Option.some.inj (plain.hasBody.symm.trans hasBody)
  subst sameBody
  have behind : ∀ part ∈ otherBody.parts, ∀ inner ∈ part.preorder,
      implicitClassOpen.utf8ByteSize ≤ inner.label.start := by
    intro part isPart inner isInner
    exact (isClassOf.enclosed otherBody isBody part isPart inner isInner).afterOpen
  have classLowers := lowers_class isClass plain (lowerAll_moved behind isLowered)
  have isOnlyPart : (concrete (wrap source)).parts = [tree] := by
    have split : (concrete (wrap source)).parts =
        ((concrete (wrap source)).children.filter (·.label.named)).filter (!·.label.extra) := by
      rw [List.filter_filter]
      apply List.filter_congr
      intro child _
      rw [isPart, Bool.and_comm]
    rw [split, isOnly, List.filter_singleton, plain.notExtra]
    rfl
  have rootLowered : lowerParts ⟨(wrap source).toUTF8, 0⟩ (concrete (wrap source)) =
      .ok [classNode ⟨(wrap source).toUTF8, 0⟩ tree nameTree otherBody
        (items.map (Node.moved implicitClassOpen.utf8ByteSize))] := by
    rw [lowerParts, isOnlyPart, lowerAll_eq_ok_iff]
    exact .cons classLowers .nil
  refine ⟨tree, nameTree, ?_⟩
  simp only [parseWith, Diagnosis.firstFault, noError, rootLowered]
  rfl

end SourceUnit

theorem analyzeWith_eq_ok_iff {concrete : String → ConcreteTree} {source : String}
    {unit : SourceUnit} (parsed : SourceUnit.parseWith concrete source = .ok unit) (facts : Facts) :
    analyzeWith concrete source = .ok facts ↔ unit.extract = .ok facts := by
  rw [analyzeWith, parsed]
  rcases isExtracted : unit.extract with defect | other
  · simp [isExtracted]
  · simp [isExtracted]

/--
If a source has an error but can be parsed as the body of a class, then analysing the source and
analysing the text of the class give the same facts, or both fail.
-/
theorem analyzeWith_wrap {concrete : String → ConcreteTree} {source : String} {unit : SourceUnit}
    (hasError : (concrete source).label.hasError = true)
    (parsed : SourceUnit.parseWith concrete source = .ok unit)
    (isClassOf : SourceUnit.IsClassOf source (concrete (SourceUnit.wrap source))) (facts : Facts) :
    analyzeWith concrete source = .ok facts ↔
      analyzeWith concrete (SourceUnit.wrap source) = .ok facts := by
  rcases SourceUnit.exists_items_of_parseWith parsed with
    ⟨items, rfl, ⟨noError, _⟩ | ⟨body, isBody, isLowered⟩⟩
  · -- Without an error the source would be lowered as it stands.
    rw [noError] at hasError
    cases hasError
  rcases SourceUnit.parseWith_wrap isClassOf isBody isLowered with ⟨tree, nameTree, wrapParsed⟩
  have placed := SourceUnit.placed_of_lowerParts isLowered (isClassOf.enclosed body isBody)
  rw [analyzeWith_eq_ok_iff parsed, analyzeWith_eq_ok_iff wrapParsed]
  refine (SourceUnit.extract_eq_ok_iff_moved (SourceUnit.methods_class source _ _) ?_ facts).symm
  intro node isMethod
  exact SourceUnit.alike_of_placed placed isMethod

/-! ## A constructor without its class -/

namespace BareConstructor

open SourceUnit Lowering ConcreteTree

/-- A constructor with lines that end in carriage returns, also the last one. -/
def source : String := "A()\x7b\rx.f(1);\x7d\r"

/-- The tree that the grammar makes of the constructor in the class. -/
def declarationTree : ConcreteTree :=
  namedNode "constructor_declaration" none 25 38 [
    namedNode "identifier" (some "name") 25 26 [],
    namedNode "formal_parameters" (some "parameters") 26 28 [tokenNode "(" 26, tokenNode ")" 27],
    namedNode "constructor_body" (some "body") 28 38 [
      tokenNode "\x7b" 28,
      namedNode "expression_statement" none 30 37 [
        namedNode "method_invocation" none 30 36 [
          namedNode "identifier" (some "object") 30 31 [],
          tokenNode "." 31,
          namedNode "identifier" (some "name") 32 33 [],
          namedNode "argument_list" (some "arguments") 33 36 [
            tokenNode "(" 33,
            namedNode "decimal_integer_literal" none 34 35 [],
            tokenNode ")" 35]],
        tokenNode ";" 36],
      tokenNode "\x7d" 37]]

/-- The name of the class. -/
def nameTree : ConcreteTree := namedNode "identifier" (some "name") 6 22 []

/-- The body of the class. -/
def bodyTree : ConcreteTree :=
  namedNode "class_body" (some "body") 23 41 [tokenNode "\x7b" 23, declarationTree,
    tokenNode "\x7d" 40]

/-- The class. -/
def classTree : ConcreteTree :=
  namedNode "class_declaration" none 0 41 [tokenNode "class" 0, nameTree, bodyTree]

/-- The tree of the class; every other text counts as an error. -/
def trees (text : String) : ConcreteTree :=
  if text = wrap source then namedNode "program" none 0 41 [classTree]
  else node ⟨"ERROR", 0, text.utf8ByteSize, true, false, none, true, false, true⟩ []

/-- The call in the constructor. -/
def call : Node :=
  .methodInvocation ⟨5, 6⟩ "f" (some (.expression ⟨5, 1⟩ "identifier" []))
    [.literal ⟨9, 1⟩ .integer]

/-- What the constructor is lowered to. -/
def declaration : Node :=
  .methodDeclaration ⟨0, 13⟩ "A" [.expression ⟨1, 2⟩ "formal_parameters" []]
    (some [.expression ⟨5, 7⟩ "expression_statement" [call]])

theorem hasError_source : (trees source).label.hasError = true := by
  rw [trees, if_neg (by decide)]
  rfl

theorem trees_wrap : trees (wrap source) = namedNode "program" none 0 41 [classTree] :=
  if_pos rfl

theorem lowerParts_body :
    lowerParts ⟨(wrap source).toUTF8, implicitClassOpen.utf8ByteSize⟩ bodyTree =
      .ok [declaration] := by
  refine lowerAll_eq_ok_iff.mpr (.cons ?_ .nil)
  refine .declaration (Or.inr rfl) rfl (by decide) rfl (.cons ?_ .nil) (.cons ?_ .nil)
  · exact .expression (by decide) rfl .nil
  · refine .expression (by decide) rfl (.cons ?_ .nil)
    exact .callOn rfl rfl (by decide) rfl rfl rfl (.expression (by decide) rfl .nil)
      (.cons (.literal rfl) .nil)

theorem enclosed_declaration : ∀ tree ∈ declarationTree.preorder, Enclosed source tree := by
  have checked : ∀ tree ∈ declarationTree.preorder,
      IsPosition (wrap source) tree.label.start ∧ IsPosition (wrap source) tree.label.stop ∧
        tree.label.start ≤ tree.label.stop ∧ 25 ≤ tree.label.start ∧ tree.label.stop ≤ 39 := by
    decide
  have noReturn : ∀ tree ∈ declarationTree.preorder,
      (wrap source).toUTF8.data.toList[tree.label.stop - 1]? ≠ some 13 := by
    decide
  intro tree isTree
  rcases checked tree isTree with ⟨start, stop, ordered, afterOpen, beforeClose⟩
  refine ⟨start, stop, ordered, afterOpen, beforeClose, ?_⟩
  intro _
  rw [LineTable.toList_eq_data]
  exact noReturn tree isTree

theorem isClassOf_trees : IsClassOf source (trees (wrap source)) where
  plain := by
    rw [trees_wrap]
    intro tree isTree _
    cases List.mem_singleton.mp isTree
    exact ⟨nameTree, bodyTree, rfl, rfl, rfl, rfl, rfl, rfl⟩
  enclosed := by
    rw [trees_wrap]
    intro body isBody part isPart
    cases isBody
    cases List.mem_singleton.mp isPart
    exact enclosed_declaration

theorem parseWith_source :
    parseWith trees source = .ok (ofItems source [declaration]) := by
  have isBody : implicitBody? (trees (wrap source)) = some bodyTree := by
    rw [trees_wrap]
    rfl
  exact parseWith_of_implicitBody? hasError_source isBody lowerParts_body

/-- The unit of the constructor. -/
def unit : SourceUnit := ofItems source [declaration]

/-- The facts of the constructor. -/
def facts : Facts := ⟨#[⟨"A", 1, 2, []⟩], #[⟨"f", 2, 1, ["1"]⟩], ⟨#[("x", #["f"])]⟩⟩

theorem methods_root : unit.root.methods = [declaration, call] := by
  have ofDeclaration : declaration.children = declaration.declaredChildren :=
    List.mergeSort_of_pairwise (by decide)
  have ofCall : call.children = call.declaredChildren := List.mergeSort_of_pairwise (by decide)
  have belowDeclaration : declaration.declaredChildren.flatMap Node.methods = call.methods := by
    rw [declaration, Node.declaredChildren, Option.getD_some, List.singleton_append,
      List.flatMap_cons, List.flatMap_singleton, Node.methods_eq_nil_of_leaf rfl rfl,
      Node.methods_eq_of_only_child rfl rfl, List.nil_append]
  have belowCall : call.declaredChildren.flatMap Node.methods = [] := by
    rw [call, Node.declaredChildren, Option.toList_some, List.singleton_append, List.flatMap_cons,
      List.flatMap_singleton, Node.methods_eq_nil_of_leaf rfl rfl,
      Node.methods_eq_nil_of_leaf rfl rfl, List.nil_append]
  rw [Node.methods_eq_of_only_child rfl rfl, Node.methods_eq_of_method rfl, ofDeclaration,
    belowDeclaration, Node.methods_eq_of_method rfl, ofCall, belowCall]

theorem text_argument : unit.text (.literal ⟨9, 1⟩ .integer) = .ok "1" :=
  slice_eq_ok_iff.mpr (by decide)

theorem text_receiver : unit.text (.expression ⟨5, 1⟩ "identifier" []) = .ok "x" :=
  slice_eq_ok_iff.mpr (by decide)

theorem extract_unit : unit.extract = .ok facts := by
  have startLine : unit.lineOf 0 = 1 := by decide +kernel
  have callLine : unit.lineOf 5 = 2 := by decide +kernel
  have stopLine : unit.lineOf (unit.stopOf ⟨0, 13⟩) = 2 := by decide +kernel
  have plain : ∀ name ∈ ["A", "f"], Name.isPlain name := by decide +kernel
  rw [extract_eq_ok_iff_methods, methods_root]
  constructor
  · simp only [List.forall_mem_cons]
    refine ⟨⟨plain "A" (by simp), ?_⟩, ⟨plain "f" (by simp), ?_, ?_⟩, by simp⟩
    · simp [DeclaresByFragments]
    · simpa [Readable] using ⟨_, text_argument⟩
    · simpa [Readable] using ⟨_, text_receiver⟩
  · have ofDeclaration : declaration? unit declaration = some ⟨"A", 1, 2, []⟩ := by
      rw [declaration, declaration?]
      simp [startLine, stopLine, variableNames]
    have ofCall : call? unit call = some ⟨"f", 2, 1, ["1"]⟩ := by
      simp [call, call?, callLine, text_argument]
    have ofReceiver : qualifiedCall? unit call = some ("x", "f") := by
      simp [call, qualifiedCall?, text_receiver]
    have noDeclaration : declaration? unit call = none := rfl
    have noCall : call? unit declaration = none := rfl
    have noReceiver : qualifiedCall? unit declaration = none := rfl
    simp [addFacts, ofDeclaration, ofCall, ofReceiver, noDeclaration, noCall, noReceiver, facts,
      Facts.empty, ReceiverCalls.empty, ReceiverCalls.add, ReceiverCalls.indexOf?]

/-- The constructor has the same facts by itself as in its class. -/
theorem analyzeWith_bareConstructor :
    (trees source).label.hasError = true ∧ parseWith trees source = .ok unit ∧
      IsClassOf source (trees (wrap source)) ∧
      analyzeWith trees source = .ok facts ∧ analyzeWith trees (wrap source) = .ok facts := by
  have isAnalyzed := (analyzeWith_eq_ok_iff parseWith_source facts).mpr extract_unit
  refine ⟨hasError_source, parseWith_source, isClassOf_trees, isAnalyzed, ?_⟩
  exact (analyzeWith_wrap hasError_source parseWith_source isClassOf_trees facts).mp isAnalyzed

end BareConstructor

end JavaFacts
