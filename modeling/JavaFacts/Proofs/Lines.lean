import Mathlib.Data.List.Basic
import JavaFacts.Source.LineTable

/-!
# The line of an offset

A line table is searched by halving. Its boundaries increase, so the search counts those at or
before an offset: the line of an offset is one more than the number of line ends up to it. Hence a
later offset is in no earlier line.

If a text is put after another one, or another one after it, the line ends stay where they are.
There is one exception: a carriage return at the end of the first text and a line feed at the
beginning of the second come together to one line end.
-/

namespace JavaFacts

/-! ## Counting by halving -/

namespace Text.Boundaries

theorem getElem_le_iff_lt_countP {bounds : List Nat} (sorted : bounds.Pairwise (· ≤ ·))
    (value : Nat) {place : Nat} (inBounds : place < bounds.length) :
    bounds[place] ≤ value ↔ place < bounds.countP (· ≤ value) := by
  induction bounds generalizing place with
  | nil => simp at inBounds
  | cons first rest ih =>
      rcases List.pairwise_cons.mp sorted with ⟨least, restSorted⟩
      by_cases isCounted : first ≤ value
      · rw [List.countP_cons_of_pos (by simpa using isCounted)]
        cases place with
        | zero => simpa using isCounted
        | succ place =>
            have later := ih restSorted (Nat.lt_of_succ_lt_succ inBounds)
            rw [List.getElem_cons_succ, later]
            omega
      · have noneCounted : (first :: rest).countP (· ≤ value) = 0 := by
          rw [List.countP_eq_zero]
          intro bound isBound
          rcases List.mem_cons.mp isBound with rfl | isLater
          · simpa using isCounted
          · have isLarger := least bound isLater
            simp only [decide_eq_true_eq]
            omega
        rw [noneCounted]
        have isLarger : first ≤ (first :: rest)[place] := by
          cases place with
          | zero => exact Nat.le_refl first
          | succ place => exact least _ (List.getElem_mem _)
        omega

/-- What is searched always has the count between its ends, and it shrinks with the fuel. -/
theorem search_eq_countP {bounds : Array Nat} (sorted : bounds.toList.Pairwise (· ≤ ·))
    {value fuel low high : Nat} (enoughFuel : high - low ≤ fuel) (inBounds : high ≤ bounds.size)
    (fromLow : low ≤ bounds.toList.countP (· ≤ value))
    (upToHigh : bounds.toList.countP (· ≤ value) ≤ high) :
    search bounds value fuel low high = bounds.toList.countP (· ≤ value) := by
  induction fuel generalizing low high with
  | zero =>
      rw [search]
      omega
  | succ fuel ih =>
      rw [search]
      split
      · next isOpen =>
        have isPlace : (low + high) / 2 < bounds.toList.length := by
          rw [Array.length_toList]
          omega
        have isMiddle : bounds.getD ((low + high) / 2) 0 = bounds.toList[(low + high) / 2] := by
          rw [Array.length_toList] at isPlace
          rw [Array.getD_eq_getD_getElem?, Array.getElem?_eq_getElem isPlace, Option.getD_some,
            Array.getElem_toList]
        have atMiddle := getElem_le_iff_lt_countP sorted value isPlace
        simp only [isMiddle]
        split
        · next isCounted =>
          have counted := atMiddle.mp isCounted
          exact ih (by omega) inBounds (by omega) upToHigh
        · next notCounted =>
          have counted := mt atMiddle.mpr notCounted
          exact ih (by omega) (by omega) fromLow (by omega)
      · omega

theorem countUpTo_eq_countP {bounds : Array Nat} (sorted : bounds.toList.Pairwise (· ≤ ·))
    (value : Nat) : countUpTo bounds value = bounds.toList.countP (· ≤ value) := by
  apply search_eq_countP sorted (by omega) (Nat.le_refl _) (Nat.zero_le _)
  rw [← Array.length_toList]
  exact List.countP_le_length

end Text.Boundaries

/-! ## Line ends -/

namespace LineTable

/-- The offsets after the line ends in bytes that begin at an offset. -/
def lineEnds : List UInt8 → (offset : Nat) → List Nat
  | [], _ => []
  | 13 :: 10 :: rest, offset => (offset + 2) :: lineEnds rest (offset + 2)
  | byte :: rest, offset =>
    if byte = 10 || byte = 13 then (offset + 1) :: lineEnds rest (offset + 1)
    else lineEnds rest (offset + 1)

theorem toList_collect (bytes : List UInt8) (offset : Nat) (starts : Array Nat) :
    (collect bytes offset starts).toList = starts.toList ++ lineEnds bytes offset := by
  fun_induction collect bytes offset starts with
  | case1 offset starts => simp [lineEnds]
  | case2 rest offset starts ih => simp [lineEnds, ih]
  | case3 byte rest offset starts isOther isEnd ih =>
      rw [lineEnds, if_pos isEnd, ih]
      · simp
      · exact isOther
  | case4 byte rest offset starts isOther noEnd ih =>
      rw [lineEnds, if_neg noEnd, ih]
      exact isOther

theorem lineEnds_eq_nil {bytes : List UInt8} (noEnd : ∀ byte ∈ bytes, byte ≠ 10 ∧ byte ≠ 13)
    (offset : Nat) : lineEnds bytes offset = [] := by
  fun_induction lineEnds bytes offset with
  | case1 offset => rfl
  | case2 rest offset ih => exact absurd rfl (noEnd 13 (by simp)).2
  | case3 byte rest offset notFollowed endsLine ih =>
      simp [noEnd byte (by simp)] at endsLine
  | case4 byte rest offset notFollowed endsNoLine ih =>
      exact ih fun later isLater => noEnd later (List.mem_cons_of_mem _ isLater)

theorem mem_lineEnds_bounds {bytes : List UInt8} {offset lineEnd : Nat}
    (isEnd : lineEnd ∈ lineEnds bytes offset) :
    offset < lineEnd ∧ lineEnd ≤ offset + bytes.length := by
  fun_induction lineEnds bytes offset with
  | case1 offset => cases isEnd
  | case2 rest offset ih =>
      rw [List.length_cons, List.length_cons]
      rcases List.mem_cons.mp isEnd with rfl | isLater
      · omega
      · have later := ih isLater
        omega
  | case3 byte rest offset isOther endsLine ih =>
      rw [List.length_cons]
      rcases List.mem_cons.mp isEnd with rfl | isLater
      · omega
      · have later := ih isLater
        omega
  | case4 byte rest offset isOther noEnd ih =>
      have later := ih isEnd
      rw [List.length_cons]
      omega

theorem increasing_lineEnds (bytes : List UInt8) (offset : Nat) :
    (lineEnds bytes offset).Pairwise (· < ·) := by
  fun_induction lineEnds bytes offset with
  | case1 offset => exact .nil
  | case2 rest offset ih =>
      refine List.pairwise_cons.mpr ⟨?_, ih⟩
      intro later isLater
      exact (mem_lineEnds_bounds isLater).1
  | case3 byte rest offset isOther endsLine ih =>
      refine List.pairwise_cons.mpr ⟨?_, ih⟩
      intro later isLater
      exact (mem_lineEnds_bounds isLater).1
  | case4 byte rest offset isOther noEnd ih => exact ih

theorem lineEnds_add (bytes : List UInt8) (offset distance : Nat) :
    lineEnds bytes (offset + distance) = (lineEnds bytes offset).map (· + distance) := by
  fun_induction lineEnds bytes offset with
  | case1 offset => rfl
  | case2 rest offset ih => rw [lineEnds, List.map_cons, ← ih, Nat.add_right_comm]
  | case3 byte rest offset isOther endsLine ih =>
      rw [lineEnds, if_pos endsLine, List.map_cons, ← ih, Nat.add_right_comm]
      exact isOther
  | case4 byte rest offset isOther noEnd ih =>
      rw [lineEnds, if_neg noEnd, ← ih, Nat.add_right_comm]
      exact isOther

/-- A carriage return and a line feed come together where bytes go on after others. -/
def Joins (left right : List UInt8) : Prop := left.getLast? = some 13 ∧ right.head? = some 10

theorem Joins.cons {rest right : List UInt8} (joins : Joins rest right) (byte : UInt8) :
    Joins (byte :: rest) right := by
  refine ⟨?_, joins.2⟩
  rw [List.getLast?_cons, joins.1, Option.getD_some]

/-- A byte that was not followed by a line feed is not followed by one now, if nothing joins. -/
theorem not_followed_of_apart {byte : UInt8} {rest right : List UInt8}
    (notFollowed : ∀ later, byte = 13 → rest = 10 :: later → False)
    (apart : ¬Joins (byte :: rest) right) (later : List UInt8) (isReturn : byte = 13)
    (isFeed : rest ++ right = 10 :: later) : False := by
  rcases rest with _ | ⟨next, rest⟩
  · rw [List.nil_append] at isFeed
    exact apart ⟨by rw [isReturn]; rfl, by rw [isFeed]; rfl⟩
  · rw [List.cons_append, List.cons.injEq] at isFeed
    exact notFollowed rest isReturn (by rw [isFeed.1])

theorem lineEnds_append {left right : List UInt8} (apart : ¬Joins left right) (offset : Nat) :
    lineEnds (left ++ right) offset =
      lineEnds left offset ++ lineEnds right (offset + left.length) := by
  fun_induction lineEnds left offset with
  | case1 offset => simp
  | case2 rest offset ih =>
      have later := ih fun joins => apart ((joins.cons 10).cons 13)
      rw [List.cons_append, List.cons_append, lineEnds, later, List.cons_append, List.length_cons,
        List.length_cons, Nat.add_assoc offset, Nat.add_comm 2]
  | case3 byte rest offset notFollowed endsLine ih =>
      have later := ih fun joins => apart (joins.cons byte)
      rw [List.cons_append, lineEnds, if_pos endsLine, later, List.cons_append, List.length_cons,
        Nat.add_assoc offset, Nat.add_comm 1]
      exact not_followed_of_apart notFollowed apart
  | case4 byte rest offset notFollowed noEnd ih =>
      have later := ih fun joins => apart (joins.cons byte)
      rw [List.cons_append, lineEnds, if_neg noEnd, later, List.length_cons, Nat.add_assoc offset,
        Nat.add_comm 1]
      exact not_followed_of_apart notFollowed apart

/-- The number of line ends up to an offset. -/
def endsUpTo (bytes : List UInt8) (offset : Nat) : Nat := (lineEnds bytes 0).countP (· ≤ offset)

theorem endsUpTo_mono (bytes : List UInt8) {earlier later : Nat} (ordered : earlier ≤ later) :
    endsUpTo bytes earlier ≤ endsUpTo bytes later := by
  apply List.countP_mono_left
  intro lineEnd _ isCounted
  simp only [decide_eq_true_eq] at isCounted ⊢
  omega

theorem countP_lineEnds_eq_zero {bytes : List UInt8} {offset bound : Nat}
    (isBefore : bound ≤ offset) : (lineEnds bytes offset).countP (· ≤ bound) = 0 := by
  rw [List.countP_eq_zero]
  intro lineEnd isEnd
  have isAfter := (mem_lineEnds_bounds isEnd).1
  simp only [decide_eq_true_eq]
  omega

/-- Bytes after others change the number of line ends in these at most where they join. -/
theorem endsUpTo_append_left {left right : List UInt8} {offset : Nat}
    (inLeft : offset ≤ left.length) (apart : offset = left.length → ¬Joins left right) :
    endsUpTo (left ++ right) offset = endsUpTo left offset := by
  by_cases joins : Joins left right
  · -- What joins is cut off with the carriage return, which ends after the offset.
    rcases List.getLast?_eq_some_iff.mp joins.1 with ⟨front, rfl⟩
    have inFront : offset ≤ 0 + front.length := by
      have isBefore := Nat.lt_of_le_of_ne inLeft fun atEnd => apart atEnd joins
      rw [List.length_append, List.length_singleton] at isBefore
      omega
    have frontApart : ∀ bytes, ¬Joins front (13 :: bytes) := by
      rintro bytes ⟨_, isFeed⟩
      cases isFeed
    rw [endsUpTo, endsUpTo, List.append_assoc, List.singleton_append,
      lineEnds_append (frontApart right), lineEnds_append (frontApart []), List.countP_append,
      List.countP_append, countP_lineEnds_eq_zero inFront, countP_lineEnds_eq_zero inFront]
  · have isBefore : offset ≤ 0 + left.length := by omega
    rw [endsUpTo, endsUpTo, lineEnds_append joins, List.countP_append,
      countP_lineEnds_eq_zero isBefore, Nat.add_zero]

theorem endsUpTo_append_right {left right : List UInt8} (apart : ¬Joins left right)
    (offset : Nat) :
    endsUpTo (left ++ right) (left.length + offset) =
      (lineEnds left 0).length + endsUpTo right offset := by
  have allCounted : (lineEnds left 0).countP (· ≤ left.length + offset) =
      (lineEnds left 0).length := by
    rw [List.countP_eq_length]
    intro lineEnd isEnd
    have isInside := (mem_lineEnds_bounds isEnd).2
    simp only [decide_eq_true_eq]
    omega
  rw [endsUpTo, lineEnds_append apart, List.countP_append, allCounted, lineEnds_add,
    List.countP_map, endsUpTo]
  congr 1
  apply List.countP_congr
  intro lineEnd _
  simp only [Function.comp_apply, decide_eq_true_eq]
  omega

/-! ## Lines of a text -/

theorem toList_loop (bytes : ByteArray) (place : Nat) (done : List UInt8) :
    ByteArray.toList.loop bytes place done = done.reverse ++ bytes.data.toList.drop place := by
  fun_induction ByteArray.toList.loop bytes place done with
  | case1 place done inBounds ih =>
      have isPlace : place < bytes.data.toList.length := by simpa using inBounds
      have isByte : bytes.get! place = bytes.data.toList[place] := by
        change bytes.data[place]! = bytes.data.toList[place]
        rw [getElem!_pos bytes.data place inBounds, Array.getElem_toList]
      rw [ih, List.drop_eq_getElem_cons isPlace, List.reverse_cons, List.append_assoc,
        List.singleton_append, isByte]
  | case2 place done outOfBounds =>
      rw [List.drop_eq_nil_of_le, List.append_nil]
      simpa using outOfBounds

theorem toList_eq_data (bytes : ByteArray) : bytes.toList = bytes.data.toList := by
  rw [ByteArray.toList, toList_loop, List.reverse_nil, List.nil_append, List.drop_zero]

theorem toList_append (left right : ByteArray) :
    (left ++ right).toList = left.toList ++ right.toList := by
  simp [toList_eq_data]

theorem length_toList_toUTF8 (text : String) : text.toUTF8.toList.length = text.utf8ByteSize := by
  rw [toList_eq_data]
  simp

theorem starts_ofText (text : String) :
    (ofText text).starts.toList = 0 :: lineEnds text.toUTF8.toList 0 :=
  toList_collect _ 0 #[0]

/-- Lines start at increasing offsets. -/
theorem increasing_starts (text : String) : (ofText text).starts.toList.Pairwise (· < ·) := by
  rw [starts_ofText]
  refine List.pairwise_cons.mpr ⟨?_, increasing_lineEnds _ 0⟩
  intro start isStart
  exact (mem_lineEnds_bounds isStart).1

theorem lineCount_ofText (text : String) :
    (ofText text).lineCount = (lineEnds text.toUTF8.toList 0).length + 1 := by
  rw [lineCount, ← Array.length_toList, starts_ofText, List.length_cons]

theorem lineOf_ofText (text : String) (offset : Nat) :
    (ofText text).lineOf offset =
      endsUpTo text.toUTF8.toList (min offset text.utf8ByteSize) + 1 := by
  have sorted := (increasing_starts text).imp Nat.le_of_lt
  rw [lineOf, Text.Boundaries.countUpTo_eq_countP sorted, starts_ofText,
    List.countP_cons_of_pos (by simp), endsUpTo]
  rfl

theorem one_le_lineOf (text : String) (offset : Nat) : 1 ≤ (ofText text).lineOf offset := by
  rw [lineOf_ofText]
  exact Nat.le_add_left 1 _

theorem lineOf_le_lineCount (text : String) (offset : Nat) :
    (ofText text).lineOf offset ≤ (ofText text).lineCount := by
  rw [lineOf_ofText, lineCount_ofText]
  exact Nat.add_le_add_right List.countP_le_length 1

/-- A later offset is in no earlier line. -/
theorem lineOf_mono (text : String) {earlier later : Nat} (ordered : earlier ≤ later) :
    (ofText text).lineOf earlier ≤ (ofText text).lineOf later := by
  rw [lineOf_ofText, lineOf_ofText]
  have counted := endsUpTo_mono text.toUTF8.toList
    (by omega : min earlier text.utf8ByteSize ≤ min later text.utf8ByteSize)
  omega

/-- A carriage return and a line feed come together where a text goes on after another one. -/
def JoinsText (front back : String) : Prop := Joins front.toUTF8.toList back.toUTF8.toList

theorem toList_toUTF8_append (front back : String) :
    (front ++ back).toUTF8.toList = front.toUTF8.toList ++ back.toUTF8.toList := by
  rw [← toList_append]
  rfl

/-- What comes after a text changes no line of it, but maybe that of its end. -/
theorem lineOf_append_left {front back : String} {offset : Nat}
    (inFront : offset ≤ front.utf8ByteSize)
    (apart : offset = front.utf8ByteSize → ¬JoinsText front back) :
    (ofText (front ++ back)).lineOf offset = (ofText front).lineOf offset := by
  rw [lineOf_ofText, lineOf_ofText, String.utf8ByteSize_append, Nat.min_eq_left inFront,
    Nat.min_eq_left (by omega), toList_toUTF8_append, endsUpTo_append_left]
  · rwa [length_toList_toUTF8]
  · rwa [length_toList_toUTF8]

/-- What comes before a text adds its line ends to all lines of it. -/
theorem lineOf_append_right {front back : String} (apart : ¬JoinsText front back) (offset : Nat) :
    (ofText (front ++ back)).lineOf (front.utf8ByteSize + offset) =
      (lineEnds front.toUTF8.toList 0).length + (ofText back).lineOf offset := by
  rw [lineOf_ofText, lineOf_ofText, String.utf8ByteSize_append, Nat.add_min_add_left,
    toList_toUTF8_append, ← length_toList_toUTF8 front, endsUpTo_append_right apart, Nat.add_assoc]

end LineTable

end JavaFacts
