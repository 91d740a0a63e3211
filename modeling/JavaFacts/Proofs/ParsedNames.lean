import JavaFacts.Proofs.WellMade
import JavaFacts.Source.Analysis

/-!
# The defects that parsing leaves

A tree that was parsed has no defect but the names of its methods. The grammar takes a method name
to be an identifier, which may hold characters that are neither letters nor numerals: combining
marks, for instance. A plain name holds none of these. So extraction from a source that was parsed
fails just if some method has such a stray character in its name, and it fails for the first of
these methods.
-/

namespace JavaFacts

open Extraction

/-! ## Stray characters -/

namespace Name

/-- Whether a name holds a character that an identifier can have there and a plain name not. -/
def hasStray (name : String) : Bool :=
  match name.toList with
  | [] => false
  | first :: rest =>
    (beginsIdentifier first && !isFirst first) ||
      rest.any fun character => continuesIdentifier character && !isLater character

theorem not_isPlain_iff_hasStray {name : String} (identifier : isIdentifier name) :
    ¬isPlain name ↔ hasStray name := by
  rw [isIdentifier] at identifier
  rw [isPlain, hasStray]
  generalize name.toList = characters at identifier ⊢
  rcases characters with _ | ⟨first, rest⟩
  · simp at identifier
  · simp only [Bool.and_eq_true, List.all_eq_true] at identifier
    rcases identifier with ⟨begins, continues⟩
    simp only [Bool.and_eq_true, List.all_eq_true, Bool.or_eq_true, List.any_eq_true,
      Bool.not_eq_true', not_and_or, not_forall, Bool.not_eq_true]
    constructor
    · rintro (notFirst | ⟨character, isThere, notLater⟩)
      · exact Or.inl ⟨begins, notFirst⟩
      · exact Or.inr ⟨character, isThere, continues character isThere, notLater⟩
    · rintro (⟨_, notFirst⟩ | ⟨character, isThere, _, notLater⟩)
      · exact Or.inl notFirst
      · exact Or.inr ⟨character, isThere, notLater⟩

end Name

/-- The defect of a node whose method has a stray character in its name. -/
def Extraction.strayDefect? : Node → Option TreeDefect
  | .methodDeclaration span name _ _ =>
    if Name.hasStray name then some (.declarationName span.start name) else none
  | .methodInvocation span name _ _ =>
    if Name.hasStray name then some (.invocationName span.start name) else none
  | _ => none

/-! ## The defects that are left -/

namespace Extraction

open Lowering

theorem strayDefect?_eq_none_iff {node : Node} :
    strayDefect? node = none ↔ ∀ name ∈ node.methodName?, ¬Name.hasStray name := by
  cases node <;> simp [strayDefect?, Node.methodName?]

/-- A node of a tree whose nodes are well made has no defect but a stray character in a name. -/
theorem firstDefect_iff_strayDefect? {unit : SourceUnit} {node : Node} {defect : TreeDefect}
    (wellMade : ∀ node ∈ unit.root.preorder, WellMade unit.source node)
    (isNode : node ∈ unit.root.preorder) :
    FirstDefect unit node defect ↔ strayDefect? node = some defect := by
  have named := (wellMade node isNode).named
  have children : ∀ child ∈ node.declaredChildren, WellMade unit.source child := by
    intro child isChild
    exact wellMade child (Node.mem_preorder_of_mem_declaredChildren isNode isChild)
  have readable : ∀ child ∈ node.declaredChildren, Readable unit child := by
    intro child isChild
    exact readable_of_isPosition (children child isChild).start (children child isChild).stop
  constructor
  · intro first
    cases first with
    | declarationName notPlain =>
        rw [strayDefect?, if_pos ((Name.not_isPlain_iff_hasStray (named _ rfl)).mp notPlain)]
    | notFragment plain statement reached other =>
        have fragments := (children _ (List.mem_append_right _ statement.mem)).fragments
        exact absurd (fragments _ reached.mem) other
    | invocationName notPlain =>
        rw [strayDefect?, if_pos ((Name.not_isPlain_iff_hasStray (named _ rfl)).mp notPlain)]
    | argument plain reached unreadable =>
        exact absurd (readable _ (List.mem_append_right _ reached.mem)) unreadable
    | receiver plain _ unreadable =>
        exact absurd (readable _ (List.mem_append_left _ (by simp))) unreadable
  · intro isStray
    cases node with
    | methodDeclaration span name header body =>
        rw [strayDefect?] at isStray
        split at isStray
        · next hasStray =>
          cases isStray
          exact .declarationName ((Name.not_isPlain_iff_hasStray (named _ rfl)).mpr hasStray)
        · cases isStray
    | methodInvocation span name receiver arguments =>
        rw [strayDefect?] at isStray
        split at isStray
        · next hasStray =>
          cases isStray
          exact .invocationName ((Name.not_isPlain_iff_hasStray (named _ rfl)).mpr hasStray)
        · cases isStray
    | _ => cases isStray

theorem sound_iff_strayDefect? {unit : SourceUnit} {node : Node}
    (wellMade : ∀ node ∈ unit.root.preorder, WellMade unit.source node)
    (isNode : node ∈ unit.root.preorder) : Sound unit node ↔ strayDefect? node = none := by
  constructor
  · intro sound
    rcases isStray : strayDefect? node with _ | defect
    · rfl
    · exact absurd sound
        (not_sound_of_firstDefect ((firstDefect_iff_strayDefect? wellMade isNode).mpr isStray))
  · intro noStray
    by_contra notSound
    rcases exists_firstDefect notSound with ⟨defect, first⟩
    rw [firstDefect_iff_strayDefect? wellMade isNode, noStray] at first
    cases first

end Extraction

namespace SourceUnit

open Lowering

theorem extract_succeeds_iff_strayDefect? {unit : SourceUnit}
    (wellMade : ∀ node ∈ unit.root.preorder, WellMade unit.source node) :
    (∃ facts, unit.extract = .ok facts) ↔
      ∀ node ∈ unit.root.preorder, strayDefect? node = none := by
  simp only [extract_eq_ok_iff, exists_and_left, exists_eq, and_true]
  constructor
  · intro sound node isNode
    exact (sound_iff_strayDefect? wellMade isNode).mp (sound node isNode)
  · intro noStray node isNode
    exact (sound_iff_strayDefect? wellMade isNode).mpr (noStray node isNode)

theorem extract_eq_error_iff_strayDefect? {unit : SourceUnit} {defect : TreeDefect}
    (wellMade : ∀ node ∈ unit.root.preorder, WellMade unit.source node) :
    unit.extract = .error defect ↔ unit.root.preorder.findSome? strayDefect? = some defect := by
  rw [extract_eq_error_iff, List.findSome?_eq_some_iff]
  constructor
  · rintro ⟨node, ⟨before, after, split, sound⟩, first⟩
    refine ⟨before, node, after, split, ?_, ?_⟩
    · exact (firstDefect_iff_strayDefect? wellMade (by simp [split])).mp first
    · intro earlier isEarlier
      exact (sound_iff_strayDefect? wellMade (by simp [split, isEarlier])).mp
        (sound earlier isEarlier)
  · rintro ⟨before, node, after, split, isStray, noStray⟩
    refine ⟨node, ⟨before, after, split, ?_⟩, ?_⟩
    · intro earlier isEarlier
      exact (sound_iff_strayDefect? wellMade (by simp [split, isEarlier])).mpr
        (noStray earlier isEarlier)
    · exact (firstDefect_iff_strayDefect? wellMade (by simp [split])).mpr isStray

end SourceUnit

theorem analyzeWith_eq_error_iff {concrete : String → ConcreteTree} {source : String}
    {fault : SourceFault} :
    analyzeWith concrete source = .error fault ↔
      SourceUnit.parseWith concrete source = .error fault ∨
        ∃ unit defect, SourceUnit.parseWith concrete source = .ok unit ∧
          unit.extract = .error defect ∧ fault = .malformed defect := by
  rw [analyzeWith]
  rcases SourceUnit.parseWith concrete source with other | unit
  · simp
  · rcases isExtracted : unit.extract with defect | facts
    · simp [isExtracted, eq_comm]
    · simp [isExtracted]

/--
The methods of a source that was parsed are named by identifiers. Extraction from it succeeds just
if none of these names has a stray character, and otherwise fails for the first one in pre-order
that has. So an analysis fails either as parsing does or for such a name.
-/
theorem analyzeWith_fails_at_first_stray {concrete : String → ConcreteTree}
    (grammar : SourceUnit.FollowsGrammar concrete) (source : String) :
    (∀ unit, SourceUnit.parseWith concrete source = .ok unit →
      (∀ name ∈ unit.root.preorder.filterMap Node.methodName?, Name.isIdentifier name) ∧
        ((∃ facts, unit.extract = .ok facts) ↔
          ∀ name ∈ unit.root.preorder.filterMap Node.methodName?, ¬Name.hasStray name) ∧
        ∀ defect, unit.extract = .error defect ↔
          unit.root.preorder.findSome? strayDefect? = some defect) ∧
      ∀ fault, analyzeWith concrete source = .error fault ↔
        SourceUnit.parseWith concrete source = .error fault ∨
          ∃ unit defect, SourceUnit.parseWith concrete source = .ok unit ∧
            unit.root.preorder.findSome? strayDefect? = some defect ∧
              fault = .malformed defect := by
  constructor
  · intro unit parsed
    have wellMade := SourceUnit.wellMade_of_parseWith grammar parsed
    refine ⟨?_, ?_, fun defect => SourceUnit.extract_eq_error_iff_strayDefect? wellMade⟩
    · intro name isName
      rcases List.mem_filterMap.mp isName with ⟨node, isNode, hasName⟩
      exact (wellMade node isNode).named name hasName
    · rw [SourceUnit.extract_succeeds_iff_strayDefect? wellMade]
      simp only [strayDefect?_eq_none_iff, List.mem_filterMap]
      constructor
      · rintro noStray name ⟨node, isNode, hasName⟩
        exact noStray node isNode name hasName
      · intro noStray node isNode name hasName
        exact noStray name ⟨node, isNode, hasName⟩
  · intro fault
    rw [analyzeWith_eq_error_iff]
    apply or_congr_right
    constructor
    · rintro ⟨unit, defect, parsed, isError, isFault⟩
      have wellMade := SourceUnit.wellMade_of_parseWith grammar parsed
      exact ⟨unit, defect, parsed,
        (SourceUnit.extract_eq_error_iff_strayDefect? wellMade).mp isError, isFault⟩
    · rintro ⟨unit, defect, parsed, isStray, isFault⟩
      have wellMade := SourceUnit.wellMade_of_parseWith grammar parsed
      exact ⟨unit, defect, parsed,
        (SourceUnit.extract_eq_error_iff_strayDefect? wellMade).mpr isStray, isFault⟩

/-! ## A name with a combining mark -/

namespace Accented

open Lowering ConcreteTree

/-- A call of a method whose name ends in a combining mark. -/
def call : String := "a\u0301();"

/-- A node of a tree without errors. -/
def cleanNode (kind : String) (start stop : Nat) (named : Bool) (field : Option String)
    (children : List ConcreteTree) : ConcreteTree :=
  node ⟨kind, start, stop, named, false, field, false, false, false⟩ children

/-- The tree that the grammar makes of the call. -/
def callTree : ConcreteTree :=
  cleanNode "program" 0 6 true none [
    cleanNode "expression_statement" 0 6 true none [
      cleanNode "method_invocation" 0 5 true none [
        cleanNode "identifier" 0 3 true (some "name") [],
        cleanNode "argument_list" 3 5 true (some "arguments") [
          cleanNode "(" 3 4 false none [],
          cleanNode ")" 4 5 false none []]],
      cleanNode ";" 5 6 false none []]]

/-- The tree of the call; every other text counts as an error. -/
def trees (text : String) : ConcreteTree :=
  if text = call then callTree
  else node ⟨"ERROR", 0, text.utf8ByteSize, true, false, none, true, false, true⟩ []

theorem wrap_ne_call (source : String) : SourceUnit.wrap source ≠ call := by
  intro isCall
  have sameSize := congrArg String.utf8ByteSize isCall
  simp only [SourceUnit.wrap, String.utf8ByteSize_append] at sameSize
  have isLong : SourceUnit.implicitClassOpen.utf8ByteSize = 25 := by decide
  have isShort : call.utf8ByteSize = 6 := by decide
  omega

theorem regular_callTree : ∀ tree ∈ callTree.preorder, Regular call tree := by
  have checked : ∀ tree ∈ callTree.preorder,
      IsPosition call tree.label.start ∧ IsPosition call tree.label.stop ∧
        tree.label.start ≤ tree.label.stop ∧
        (tree.kind ∈ methodKinds →
          ∀ nameTree ∈ tree.fieldChild? "name", nameTree.kind = "identifier") ∧
        (tree.kind = "identifier" → tree.label.start = 0 ∧ tree.label.stop = 3) ∧
        tree.kind ≠ "local_variable_declaration" := by
    decide
  have isText : Text.Utf8.decode (call.toUTF8.extract 0 3) = .ok "a\u0301" := by decide
  intro tree isTree
  rcases checked tree isTree with ⟨start, stop, ordered, named, range, noVariables⟩
  refine ⟨start, stop, ordered, named, ?_, fun isKind => absurd isKind noVariables⟩
  intro isIdentifier name isName
  rcases range isIdentifier with ⟨isStart, isStop⟩
  rw [isStart, isStop, isText] at isName
  cases isName
  decide +kernel

theorem followsGrammar_trees : SourceUnit.FollowsGrammar trees where
  regular := by
    intro text noError
    by_cases isCall : text = call
    · subst isCall
      rw [trees, if_pos rfl]
      exact regular_callTree
    · rw [trees, if_neg isCall] at noError
      cases noError
  enclosed := by
    intro source body isBody
    rw [trees, if_neg (wrap_ne_call source)] at isBody
    cases isBody

/-- What the call is parsed to. -/
def items : List Node :=
  [.expression ⟨0, 6⟩ "expression_statement" [.methodInvocation ⟨0, 5⟩ "a\u0301" none []]]

theorem parseWith_call :
    SourceUnit.parseWith trees call = .ok (SourceUnit.ofItems call items) := by
  have isTree : trees call = callTree := by rw [trees, if_pos rfl]
  have lowers : List.Forall₂ (Lowers ⟨call.toUTF8, 0⟩) callTree.parts items := by
    refine .cons (.expression (by decide) rfl (.cons ?_ .nil)) .nil
    exact .call rfl rfl (by decide) rfl rfl .nil
  have isLowered : lowerParts ⟨call.toUTF8, 0⟩ callTree = .ok items := lowerAll_eq_ok_iff.mpr lowers
  have noFault : Diagnosis.firstFault call callTree = none := rfl
  simp only [SourceUnit.parseWith, isTree, noFault, isLowered]

theorem findSome?_strayDefect?_call :
    (SourceUnit.ofItems call items).root.preorder.findSome? strayDefect? =
      some (.invocationName 0 "a\u0301") := by
  have hasStray : Name.hasStray "a\u0301" = true := by decide +kernel
  simp [SourceUnit.ofItems, SourceUnit.ofTree, items, Node.preorder_eq, Node.preorderAll,
    Node.children, Node.declaredChildren, List.findSome?_cons, strayDefect?, hasStray]

/-- The call is parsed, and then refused for its name. -/
theorem analyzeWith_accented_call :
    SourceUnit.FollowsGrammar trees ∧
      (∃ unit, SourceUnit.parseWith trees call = .ok unit ∧
        unit.extract = .error (.invocationName 0 "a\u0301")) ∧
      analyzeWith trees call = .error (.malformed (.invocationName 0 "a\u0301")) := by
  rcases analyzeWith_fails_at_first_stray followsGrammar_trees call with ⟨ofParsed, ofAnalysis⟩
  rcases ofParsed _ parseWith_call with ⟨_, _, ofExtraction⟩
  refine ⟨followsGrammar_trees, ⟨_, parseWith_call, ?_⟩, ?_⟩
  · exact (ofExtraction _).mpr findSome?_strayDefect?_call
  · exact (ofAnalysis _).mpr (Or.inr ⟨_, _, parseWith_call, findSome?_strayDefect?_call, rfl⟩)

end Accented

end JavaFacts
