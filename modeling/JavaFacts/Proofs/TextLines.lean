import JavaFacts.Proofs.Lines

/-!
# The lines that a text is cut into

A text is cut from left to right into lines, each of which ends with a line feed, with a carriage
return, or with both in this order, and into a last line without an end. This file relates a line
table, which keeps offsets only, to this cut: a line table counts the lines that have ended by an
offset. So going through a text visits its lines one after another, none is left out, and the end of
the text is in the last one.
-/

namespace JavaFacts

/-- In increasing boundaries, those up to one of them are counted by its place. -/
theorem Text.Boundaries.countP_le_getElem {bounds : List Nat}
    (increasing : bounds.Pairwise (· < ·)) {place : Nat} (inBounds : place < bounds.length) :
    bounds.countP (· ≤ bounds[place]) = place + 1 := by
  have sorted := increasing.imp Nat.le_of_lt
  have isCounted := (getElem_le_iff_lt_countP sorted _ inBounds).mp (Nat.le_refl _)
  refine Nat.le_antisymm (Nat.le_of_not_lt ?_) isCounted
  intro nextCounted
  have nextInBounds := Nat.lt_of_lt_of_le nextCounted List.countP_le_length
  have notLarger := (getElem_le_iff_lt_countP sorted _ nextInBounds).mpr nextCounted
  have isLarger := List.pairwise_iff_getElem.mp increasing place (place + 1) inBounds nextInBounds
    (Nat.lt_succ_self place)
  omega

namespace LineTable

/-! ## Cutting a text -/

/-- How a line ends. -/
inductive LineEnd where
  | feed
  | returnAndFeed
  /-- A carriage return that no line feed follows. -/
  | loneReturn

def LineEnd.bytes : LineEnd → List UInt8
  | feed => [10]
  | returnAndFeed => [13, 10]
  | loneReturn => [13]

/-- A line with its end. -/
structure EndedLine where
  content : List UInt8
  lineEnd : LineEnd

def EndedLine.bytes (line : EndedLine) : List UInt8 := line.content ++ line.lineEnd.bytes

/-- No line ends in the bytes. -/
def Unbroken (bytes : List UInt8) : Prop := ∀ byte ∈ bytes, byte ≠ 10 ∧ byte ≠ 13

/-- Bytes are cut into lines with their ends, and a last line that has none. -/
inductive Cut : List UInt8 → List EndedLine → (last : List UInt8) → Prop
  | last {bytes : List UInt8} (unbroken : Unbroken bytes) : Cut bytes [] bytes
  | line (line : EndedLine) {rest : List UInt8} {lines : List EndedLine} {last : List UInt8}
      (unbroken : Unbroken line.content)
      (isAlone : line.lineEnd = .loneReturn → rest.head? ≠ some 10) (cut : Cut rest lines last) :
      Cut (line.bytes ++ rest) (line :: lines) last

/-- The offsets at which lines have ended that begin at an offset. -/
def stops (offset : Nat) : List EndedLine → List Nat
  | [] => []
  | line :: lines => (offset + line.bytes.length) :: stops (offset + line.bytes.length) lines

@[simp]
theorem length_stops (offset : Nat) (lines : List EndedLine) :
    (stops offset lines).length = lines.length := by
  induction lines generalizing offset with
  | nil => rfl
  | cons line lines ih => rw [stops, List.length_cons, ih, List.length_cons]

/-- Unbroken bytes do not end with a carriage return. -/
theorem not_joins_of_unbroken {left right : List UInt8} (unbroken : Unbroken left) :
    ¬Joins left right := by
  rintro ⟨isReturn, _⟩
  exact (unbroken 13 (List.mem_of_getLast? isReturn)).2 rfl

theorem lineEnds_lineEnd {lineEnd : LineEnd} {rest : List UInt8}
    (isAlone : lineEnd = .loneReturn → rest.head? ≠ some 10) (offset : Nat) :
    lineEnds (lineEnd.bytes ++ rest) offset =
      (offset + lineEnd.bytes.length) :: lineEnds rest (offset + lineEnd.bytes.length) := by
  cases lineEnd with
  | feed => simp [LineEnd.bytes, lineEnds]
  | returnAndFeed => simp [LineEnd.bytes, lineEnds]
  | loneReturn =>
      have noFeed : ∀ later, rest ≠ 10 :: later := by
        rintro later rfl
        exact isAlone rfl rfl
      simp [LineEnd.bytes, lineEnds, noFeed]

/-- However bytes are cut, the lines end where line ends are found. -/
theorem Cut.lineEnds_eq {bytes : List UInt8} {lines : List EndedLine} {last : List UInt8}
    (cut : Cut bytes lines last) (offset : Nat) : lineEnds bytes offset = stops offset lines := by
  induction cut generalizing offset with
  | last unbroken => exact lineEnds_eq_nil unbroken offset
  | line line unbroken isAlone _ ih =>
      rw [EndedLine.bytes, List.append_assoc, lineEnds_append (not_joins_of_unbroken unbroken),
        lineEnds_eq_nil unbroken, List.nil_append, lineEnds_lineEnd isAlone, ih, stops,
        EndedLine.bytes, List.length_append, Nat.add_assoc]

/-- A byte that ends no line belongs to the line that is begun by it. -/
theorem Cut.cons {byte : UInt8} {rest : List UInt8} {lines : List EndedLine} {last : List UInt8}
    (noEnd : byte ≠ 10 ∧ byte ≠ 13) (cut : Cut rest lines last) :
    ∃ lines last, Cut (byte :: rest) lines last := by
  have longer : ∀ {bytes}, Unbroken bytes → Unbroken (byte :: bytes) := fun unbroken =>
    List.forall_mem_cons.mpr ⟨noEnd, unbroken⟩
  cases cut with
  | last unbroken => exact ⟨[], _, .last (longer unbroken)⟩
  | line line unbroken isAlone cut =>
      exact ⟨_, last, .line ⟨byte :: line.content, line.lineEnd⟩ (longer unbroken) isAlone cut⟩

theorem exists_cut (bytes : List UInt8) : ∃ lines last, Cut bytes lines last := by
  have unbroken : Unbroken [] := List.forall_mem_nil _
  induction bytes, 0 using lineEnds.induct with
  | case1 offset => exact ⟨[], [], .last unbroken⟩
  | case2 rest offset ih =>
      rcases ih with ⟨lines, last, cut⟩
      exact ⟨_, last, .line ⟨[], .returnAndFeed⟩ unbroken nofun cut⟩
  | case3 byte rest offset isOther endsLine ih =>
      rcases ih with ⟨lines, last, cut⟩
      simp only [Bool.or_eq_true, decide_eq_true_eq] at endsLine
      rcases endsLine with rfl | rfl
      · exact ⟨_, last, .line ⟨[], .feed⟩ unbroken nofun cut⟩
      · refine ⟨_, last, .line ⟨[], .loneReturn⟩ unbroken ?_ cut⟩
        intro _ isFeed
        rcases List.head?_eq_some_iff.mp isFeed with ⟨later, rfl⟩
        exact isOther later rfl rfl
  | case4 byte rest offset isOther noEnd ih =>
      rcases ih with ⟨lines, last, cut⟩
      exact cut.cons (by simpa using noEnd)

/-! ## The lines of offsets -/

/-- The line of an offset comes after the lines that have ended by then. -/
theorem lineOf_of_cut {text : String} {lines : List EndedLine} {last : List UInt8}
    (cut : Cut text.toUTF8.toList lines last) (offset : Nat) :
    (ofText text).lineOf offset =
      1 + (stops 0 lines).countP (· ≤ min offset text.utf8ByteSize) := by
  rw [lineOf_ofText, endsUpTo, cut.lineEnds_eq, Nat.add_comm]

theorem lineCount_of_cut {text : String} {lines : List EndedLine} {last : List UInt8}
    (cut : Cut text.toUTF8.toList lines last) : (ofText text).lineCount = 1 + lines.length := by
  rw [lineCount_ofText, cut.lineEnds_eq, length_stops, Nat.add_comm]

theorem starts_le_size {text : String} {start : Nat} (isStart : start ∈ (ofText text).starts) :
    start ≤ text.utf8ByteSize := by
  rw [← Array.mem_toList_iff, starts_ofText] at isStart
  rcases List.mem_cons.mp isStart with rfl | isEnd
  · exact Nat.zero_le _
  · rw [← length_toList_toUTF8]
    simpa using (mem_lineEnds_bounds isEnd).2

/-- All lines have started at the end of the text. -/
theorem lineOf_of_size_le {text : String} {offset : Nat} (isAfter : text.utf8ByteSize ≤ offset) :
    (ofText text).lineOf offset = (ofText text).lineCount := by
  have sorted := (increasing_starts text).imp Nat.le_of_lt
  have isSize : (ofText text).size = text.utf8ByteSize := rfl
  rw [lineOf, Text.Boundaries.countUpTo_eq_countP sorted, lineCount, ← Array.length_toList,
    List.countP_eq_length]
  intro start isStart
  have inText := starts_le_size (Array.mem_toList_iff.mp isStart)
  simp only [decide_eq_true_eq]
  omega

/-- A line begins at the offset at which it starts. -/
theorem lineOf_start {text : String} {place : Nat} (isPlace : place < (ofText text).lineCount) :
    (ofText text).lineOf ((ofText text).starts[place]) = place + 1 := by
  have inText := starts_le_size (Array.getElem_mem isPlace)
  have isSize : (ofText text).size = text.utf8ByteSize := rfl
  have increasing := increasing_starts text
  rw [lineOf, Nat.min_eq_left (isSize ▸ inText),
    Text.Boundaries.countUpTo_eq_countP (increasing.imp Nat.le_of_lt)]
  exact Text.Boundaries.countP_le_getElem increasing isPlace

theorem exists_lineOf_eq_iff {text : String} {line : Nat} :
    (∃ offset, (ofText text).lineOf offset = line) ↔
      1 ≤ line ∧ line ≤ (ofText text).lineCount := by
  constructor
  · rintro ⟨offset, rfl⟩
    exact ⟨one_le_lineOf text offset, lineOf_le_lineCount text offset⟩
  · rintro ⟨isFirst, isLast⟩
    have isPlace : line - 1 < (ofText text).lineCount := by omega
    refine ⟨(ofText text).starts[line - 1], ?_⟩
    rw [lineOf_start isPlace]
    omega

/-- Both bytes of a line end are in the line that they end, and the next byte is in the next one. -/
theorem lineOf_returnAndFeed {text : String} {front back : List UInt8}
    (isText : text.toUTF8.toList = front ++ 13 :: 10 :: back) :
    (ofText text).lineOf (front.length + 1) = (ofText text).lineOf front.length ∧
      (ofText text).lineOf (front.length + 2) = (ofText text).lineOf front.length + 1 := by
  have isSize : text.utf8ByteSize = front.length + 2 + back.length := by
    rw [← length_toList_toUTF8, isText, List.length_append, List.length_cons, List.length_cons]
    omega
  have apart : ¬Joins front (13 :: 10 :: back) := by
    rintro ⟨_, isFeed⟩
    cases isFeed
  have isLine : ∀ further ≤ 2, (ofText text).lineOf (front.length + further) =
      (lineEnds front 0).length + (if 2 ≤ further then 1 else 0) + 1 := by
    intro further isNear
    have noneBehind : (lineEnds back (0 + 2)).countP (· ≤ further) = 0 :=
      countP_lineEnds_eq_zero (by omega)
    rw [lineOf_ofText, Nat.min_eq_left (by omega), isText, endsUpTo_append_right apart, endsUpTo,
      lineEnds, List.countP_cons, noneBehind]
    simp
  have atReturn := isLine 0 (by omega)
  have atFeed := isLine 1 (by omega)
  have afterBoth := isLine 2 (by omega)
  simp only [Nat.add_zero] at atReturn
  exact ⟨by rw [atFeed, atReturn]; rfl, by rw [afterBoth, atReturn]; rfl⟩

/--
A text can be cut into lines, and however it is cut, the line of an offset is one more than the
number of lines that have ended by then, and there is one line more than there are line ends. So
lines come one after another along a text, each of them somewhere, the last one at the end and after
it, and a carriage return and a line feed are in the line that they end together. The table itself
keeps increasing offsets of the text.
-/
theorem lineOf_counts_lines (text : String) :
    (∃ lines last, Cut text.toUTF8.toList lines last) ∧
      (∀ lines last, Cut text.toUTF8.toList lines last →
        (∀ offset, (ofText text).lineOf offset =
            1 + (stops 0 lines).countP (· ≤ min offset text.utf8ByteSize)) ∧
          (ofText text).lineCount = 1 + lines.length) ∧
      (∀ earlier later, earlier ≤ later →
        (ofText text).lineOf earlier ≤ (ofText text).lineOf later) ∧
      (∀ line, (∃ offset, (ofText text).lineOf offset = line) ↔
        1 ≤ line ∧ line ≤ (ofText text).lineCount) ∧
      (∀ offset, text.utf8ByteSize ≤ offset →
        (ofText text).lineOf offset = (ofText text).lineCount) ∧
      (∀ front back, text.toUTF8.toList = front ++ 13 :: 10 :: back →
        (ofText text).lineOf (front.length + 1) = (ofText text).lineOf front.length ∧
          (ofText text).lineOf (front.length + 2) = (ofText text).lineOf front.length + 1) ∧
      (ofText text).starts.toList.Pairwise (· < ·) ∧
      ∀ start ∈ (ofText text).starts, start ≤ text.utf8ByteSize := by
  refine ⟨exists_cut _, ?_, fun earlier later => lineOf_mono text, fun line => exists_lineOf_eq_iff,
    fun offset => lineOf_of_size_le, fun front back => lineOf_returnAndFeed,
    increasing_starts text, fun start => starts_le_size⟩
  intro lines last cut
  exact ⟨lineOf_of_cut cut, lineCount_of_cut cut⟩

/-- A carriage return alone, one with a line feed, and a line feed alone. -/
example : (List.range 8).map (ofText "a\r\r\n\nb").lineOf = [1, 1, 2, 2, 3, 4, 4, 4] := by
  decide +kernel

end LineTable

end JavaFacts
