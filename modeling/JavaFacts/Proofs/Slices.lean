import JavaFacts.Proofs.Moved

/-!
# The text that a span covers

A span covers a text just if the source is made up of something in front, as long as the span says,
of the text itself, and of something behind. So it does not matter what is written around a source:
a span that is moved along with it covers the same text. The only spans that cover none are those
that go on after the end of the source, and those that start or stop inside of a character.
-/

namespace JavaFacts

open InOrder Extraction

/-! ## Positions -/

theorem IsPosition.le_size {text : String} {offset : Nat} (isPosition : IsPosition text offset) :
    offset ≤ text.utf8ByteSize :=
  isPosition.le_rawEndPos

/-- At a position a text can be cut in two. -/
theorem isPosition_iff_splits {text : String} {offset : Nat} :
    IsPosition text offset ↔ ∃ front back, text = front ++ back ∧ front.utf8ByteSize = offset := by
  rw [IsPosition, String.Pos.Raw.isValid_iff_exists_append]
  simp only [String.Pos.Raw.ext_iff, String.byteIdx_rawEndPos, eq_comm (a := offset)]

/-- Behind a text, positions are those of the text that follows. -/
theorem isPosition_of_append {front text : String} {offset : Nat}
    (isPosition : IsPosition (front ++ text) (offset + front.utf8ByteSize)) :
    IsPosition text offset := by
  rcases String.Pos.Raw.isValid_append.mp isPosition with inFront | ⟨_, isBehind⟩
  · have atStart : offset = 0 := by
      have isBefore : offset + front.utf8ByteSize ≤ front.utf8ByteSize := inFront.le_rawEndPos
      omega
    rw [atStart]
    exact isPosition_zero text
  · have distance : (⟨offset + front.utf8ByteSize⟩ : String.Pos.Raw) - front = ⟨offset⟩ := by
      simp [String.Pos.Raw.ext_iff]
    rwa [distance] at isBehind

/-- An offset behind the first byte of a character and before its end. -/
def CutsCharacter (text : String) (offset : Nat) : Prop :=
  ∃ front character back, text = front ++ String.singleton character ++ back ∧
    front.utf8ByteSize < offset ∧ offset < front.utf8ByteSize + character.utf8Size

theorem CutsCharacter.append_left {text : String} {offset : Nat} (front : String)
    (cuts : CutsCharacter text offset) :
    CutsCharacter (front ++ text) (front.utf8ByteSize + offset) := by
  rcases cuts with ⟨before, character, back, rfl, isBehind, isBefore⟩
  refine ⟨front ++ before, character, back, ?_, ?_, ?_⟩
  · simp only [String.append_assoc]
  · rw [String.utf8ByteSize_append]
    omega
  · rw [String.utf8ByteSize_append]
    omega

theorem IsPosition.append_left {text : String} {offset : Nat} (front : String)
    (isPosition : IsPosition text offset) :
    IsPosition (front ++ text) (front.utf8ByteSize + offset) := by
  rcases isPosition_iff_splits.mp isPosition with ⟨before, back, rfl, rfl⟩
  refine isPosition_iff_splits.mpr ⟨front ++ before, back, ?_, ?_⟩
  · rw [String.append_assoc]
  · rw [String.utf8ByteSize_append]

theorem not_isPosition_of_cutsCharacter {text : String} {offset : Nat}
    (cuts : CutsCharacter text offset) : ¬IsPosition text offset := by
  rcases cuts with ⟨front, character, back, rfl, isBehind, isBefore⟩
  intro isPosition
  rcases String.Pos.Raw.isValid_append.mp isPosition with inside | ⟨atEnd, _⟩
  · rcases String.Pos.Raw.isValid_append.mp inside with inFront | ⟨_, inCharacter⟩
    · have isBeforeEnd : offset ≤ front.utf8ByteSize := inFront.le_rawEndPos
      omega
    · simp only [String.Pos.Raw.isValid_singleton, String.Pos.Raw.ext_iff,
        String.Pos.Raw.byteIdx_sub_string, String.Pos.Raw.byteIdx_zero] at inCharacter
      omega
  · simp only [String.Pos.Raw.le_iff, String.byteIdx_rawEndPos, String.utf8ByteSize_append,
      String.utf8ByteSize_singleton] at atEnd
    omega

/-- An offset in a text either is a position or lies inside of a character. -/
theorem isPosition_or_cutsCharacter {text : String} {offset : Nat}
    (inText : offset ≤ text.utf8ByteSize) :
    IsPosition text offset ∨ CutsCharacter text offset := by
  obtain ⟨characters, rfl⟩ : ∃ characters, text = String.ofList characters :=
    ⟨text.toList, String.ofList_toList.symm⟩
  induction characters generalizing offset with
  | nil =>
      have atStart : offset = 0 := by simpa using inText
      left
      rw [atStart]
      exact isPosition_zero _
  | cons character rest ih =>
      have isText : String.ofList (character :: rest) =
          String.singleton character ++ String.ofList rest := by
        rw [String.singleton_eq_ofList, ← String.ofList_append, List.singleton_append]
      have isSize : (String.singleton character).utf8ByteSize = character.utf8Size :=
        String.utf8ByteSize_singleton
      rw [isText, String.utf8ByteSize_append] at inText
      rw [isText]
      rcases Nat.lt_or_ge offset character.utf8Size with isInside | isBehind
      · rcases Nat.eq_zero_or_pos offset with rfl | isPositive
        · exact Or.inl (isPosition_zero _)
        · exact Or.inr ⟨"", character, String.ofList rest, by simp, by simpa using isPositive,
            by simpa using isInside⟩
      · obtain ⟨further, rfl⟩ := Nat.exists_eq_add_of_le isBehind
        have inRest : further ≤ (String.ofList rest).utf8ByteSize := by omega
        rw [← isSize]
        rcases ih inRest with isPosition | cuts
        · exact Or.inl (isPosition.append_left _)
        · exact Or.inr (cuts.append_left _)

theorem isPosition_iff {text : String} {offset : Nat} :
    IsPosition text offset ↔ offset ≤ text.utf8ByteSize ∧ ¬CutsCharacter text offset := by
  constructor
  · intro isPosition
    exact ⟨isPosition.le_size, fun cuts => not_isPosition_of_cutsCharacter cuts isPosition⟩
  · rintro ⟨inText, cutsNone⟩
    exact (isPosition_or_cutsCharacter inText).resolve_right cutsNone

namespace SourceUnit

/-! ## Slices -/

/-- A span between positions covers the bytes between them. -/
theorem slice_eq_ok_iff {unit : SourceUnit} {span : Span} {text : String} :
    unit.slice span = .ok text ↔
      IsPosition unit.source span.start ∧ IsPosition unit.source span.stop ∧
        text.toByteArray = unit.source.toByteArray.extract span.start span.stop := by
  rw [slice, ← pos?_isSome_iff, ← pos?_isSome_iff]
  rcases atStart : unit.source.pos? ⟨span.start⟩ with _ | first
  · simp
  rcases atStop : unit.source.pos? ⟨span.stop⟩ with _ | last
  · simp
  · simp only [Except.ok.injEq, Option.isSome_some, true_and]
    rw [← String.toByteArray_inj, String.toByteArray_extract, offset_of_pos? atStart,
      offset_of_pos? atStop, eq_comm]

/-- A span covers a text that stands between as much in front as the span says and the rest. -/
theorem slice_eq_ok_iff_splits {unit : SourceUnit} {span : Span} {text : String} :
    unit.slice span = .ok text ↔
      ∃ front back, unit.source = front ++ text ++ back ∧
        front.utf8ByteSize = span.start ∧ text.utf8ByteSize = span.length := by
  rw [slice_eq_ok_iff]
  constructor
  · rintro ⟨isStart, isStop, isBytes⟩
    rcases isPosition_iff_splits.mp isStart with ⟨front, rest, atStart, frontSize⟩
    rcases isPosition_iff_splits.mp isStop with ⟨upTo, back, atStop, upToSize⟩
    have ordered : span.start ≤ span.stop := Nat.le_add_right _ _
    have inSource := isStop.le_size
    have isFront : front.toByteArray = unit.source.toByteArray.extract 0 span.start := by
      rw [atStart, String.toByteArray_append, ByteArray.extract_append_eq_left]
      rw [String.size_toByteArray, frontSize]
    have isBack : back.toByteArray =
        unit.source.toByteArray.extract span.stop unit.source.utf8ByteSize := by
      rw [atStop, String.toByteArray_append, ByteArray.extract_append_eq_right]
      · rw [String.size_toByteArray, upToSize]
      · rw [String.utf8ByteSize_append, String.size_toByteArray, String.size_toByteArray]
    refine ⟨front, back, ?_, frontSize, ?_⟩
    · rw [← String.toByteArray_inj, String.toByteArray_append, String.toByteArray_append, isFront,
        isBytes, isBack,
        ← ByteArray.extract_eq_extract_append_extract _ (Nat.zero_le _) ordered,
        ← ByteArray.extract_eq_extract_append_extract _ (Nat.zero_le _) inSource,
        ← String.size_toByteArray, ByteArray.extract_zero_size]
    · rw [← String.size_toByteArray, isBytes, ByteArray.size_extract, String.size_toByteArray,
        Nat.min_eq_left inSource, Span.stop, Nat.add_sub_cancel_left]
  · rintro ⟨front, back, isSource, frontSize, textSize⟩
    refine ⟨?_, ?_, ?_⟩
    · refine isPosition_iff_splits.mpr ⟨front, text ++ back, ?_, frontSize⟩
      rw [isSource, String.append_assoc]
    · refine isPosition_iff_splits.mpr ⟨front ++ text, back, isSource, ?_⟩
      rw [String.utf8ByteSize_append, frontSize, textSize, Span.stop]
    · have cut := ByteArray.extract_append_size_add (a := front.toByteArray)
        (b := text.toByteArray ++ back.toByteArray) (i := 0) (j := text.toByteArray.size)
      rw [isSource, String.append_assoc, String.toByteArray_append, String.toByteArray_append,
        Span.stop, ← frontSize, ← textSize, ← String.size_toByteArray, ← String.size_toByteArray]
      rw [Nat.add_zero, ByteArray.extract_append_eq_left rfl] at cut
      exact cut.symm

/-- A moved span covers the same text, if the source stands that distance behind the start. -/
theorem slice_moved {here there : SourceUnit} {front back : String}
    (surrounds : there.source = front ++ here.source ++ back) {span : Span} {text : String}
    (isText : here.slice span = .ok text) :
    there.slice (span.moved front.utf8ByteSize) = .ok text := by
  rcases slice_eq_ok_iff_splits.mp isText with ⟨before, after, isSource, beforeSize, textSize⟩
  refine slice_eq_ok_iff_splits.mpr ⟨front ++ before, after ++ back, ?_, ?_, textSize⟩
  · rw [surrounds, isSource]
    simp only [String.append_assoc]
  · rw [String.utf8ByteSize_append, beforeSize, Span.start_moved, Nat.add_comm]

theorem text_moved {here there : SourceUnit} {front back : String}
    (surrounds : there.source = front ++ here.source ++ back) {node : Node}
    (isStart : IsPosition here.source node.span.start)
    (isStop : IsPosition here.source node.span.stop) :
    there.text (node.moved front.utf8ByteSize) = here.text node := by
  rcases readable_of_isPosition isStart isStop with ⟨text, isText⟩
  rw [isText, SourceUnit.text, Node.span_moved, slice_moved surrounds isText]

/-! ## Cutting a text out of a source -/

/-- A text stands in a source where a span says, and is as long as the span says. -/
def IsCutOut (source : String) (span : Span) (text : String) : Prop :=
  ∃ front back, source = front ++ text ++ back ∧
    front.utf8ByteSize = span.start ∧ text.utf8ByteSize = span.length

/-- The text that a span covers goes on with that of the next span. -/
theorem slice_append {unit : SourceUnit} {span : Span} {length : Nat} {text next : String}
    (isText : unit.slice span = .ok text) (isNext : unit.slice ⟨span.stop, length⟩ = .ok next) :
    unit.slice ⟨span.start, span.length + length⟩ = .ok (text ++ next) := by
  rcases slice_eq_ok_iff.mp isText with ⟨isStart, _, textBytes⟩
  rcases slice_eq_ok_iff.mp isNext with ⟨_, isStop, nextBytes⟩
  have sameStop : Span.stop ⟨span.start, span.length + length⟩ = Span.stop ⟨span.stop, length⟩ := by
    simp only [Span.stop]
    omega
  refine slice_eq_ok_iff.mpr ⟨isStart, sameStop ▸ isStop, ?_⟩
  have toStop : span.start ≤ span.stop := Nat.le_add_right _ _
  have toNextStop : span.stop ≤ Span.stop ⟨span.stop, length⟩ := Nat.le_add_right _ _
  rw [String.toByteArray_append, textBytes, nextBytes, sameStop,
    ByteArray.extract_eq_extract_append_extract span.stop toStop toNextStop]

theorem exists_slice_iff {unit : SourceUnit} {span : Span} :
    (∃ text, unit.slice span = .ok text) ↔
      IsPosition unit.source span.start ∧ IsPosition unit.source span.stop := by
  constructor
  · rintro ⟨text, isText⟩
    rcases slice_eq_ok_iff.mp isText with ⟨isStart, isStop, _⟩
    exact ⟨isStart, isStop⟩
  · rintro ⟨isStart, isStop⟩
    exact exists_slice_of_isPosition isStart isStop

/--
A span covers a text just if the text can be cut out of the source there. Otherwise the span is a
defect: it goes on after the end of the source, or starts or stops inside of a character. The texts
of two spans, one after the other, make up the text of both.
-/
theorem slice_cuts_out (unit : SourceUnit) (span : Span) :
    (∀ text, unit.slice span = .ok text ↔ IsCutOut unit.source span text) ∧
      ((∀ text, ¬IsCutOut unit.source span text) ↔
        unit.slice span = .error (.outside span unit.source.utf8ByteSize)) ∧
      ((∀ text, ¬IsCutOut unit.source span text) ↔
        unit.source.utf8ByteSize < span.stop ∨ CutsCharacter unit.source span.start ∨
          CutsCharacter unit.source span.stop) ∧
      ∀ length text next, unit.slice span = .ok text →
        unit.slice ⟨span.stop, length⟩ = .ok next →
        unit.slice ⟨span.start, span.length + length⟩ = .ok (text ++ next) := by
  have isSlice : ∀ text, unit.slice span = .ok text ↔ IsCutOut unit.source span text :=
    fun _ => slice_eq_ok_iff_splits
  refine ⟨isSlice, ?_, ?_, fun length text next => slice_append⟩
  · simp only [← isSlice]
    constructor
    · exact slice_eq_error
    · intro isError text isText
      rw [isError] at isText
      cases isText
  · have ordered : span.start ≤ span.stop := Nat.le_add_right _ _
    simp only [← isSlice]
    rw [← not_exists, exists_slice_iff, isPosition_iff, isPosition_iff]
    constructor
    · intro notBoth
      by_contra noCause
      simp only [not_or, Nat.not_lt] at noCause
      rcases noCause with ⟨inSource, startCutsNone, stopCutsNone⟩
      exact notBoth ⟨⟨Nat.le_trans ordered inSource, startCutsNone⟩, inSource, stopCutsNone⟩
    · rintro cause ⟨⟨_, startCutsNone⟩, inSource, stopCutsNone⟩
      rcases cause with isOutside | startCuts | stopCuts
      · exact Nat.not_lt.mpr inSource isOutside
      · exact startCutsNone startCuts
      · exact stopCutsNone stopCuts

/-- Between characters of one byte there is one of two. -/
example :
    let unit := ofTree "aéb" (.compilationUnit ⟨0, 4⟩ [])
    unit.slice ⟨1, 2⟩ = .ok "é" ∧ unit.slice ⟨1, 1⟩ = .error (.outside ⟨1, 1⟩ 4) ∧
      unit.slice ⟨4, 0⟩ = .ok "" ∧ unit.slice ⟨4, 1⟩ = .error (.outside ⟨4, 1⟩ 4) := by
  decide +kernel

end SourceUnit

end JavaFacts
