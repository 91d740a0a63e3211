import JavaFacts.Proofs.Lines
import JavaFacts.Proofs.Slices

/-!
# Writing a text in front of a source

If a text is written in front of a source and the tree is moved behind it, the facts stay the same,
except that they stand as many lines further down as the text in front has line ends. Line ends are
counted in the characters of a text, while a line table finds them in its bytes: both agree, because
a byte below 128 occurs only as the character that it stands for.

A carriage return at the end of the text in front must not meet a line feed at the beginning of the
source, as the two would become one line end.
-/

namespace JavaFacts

open InOrder Extraction

/-! ## Line ends in characters -/

namespace LineTable

/-- The number of line ends; a carriage return and the line feed after it are one. -/
def lineEndCount : List Char → Nat
  | [] => 0
  | '\r' :: '\n' :: rest => 1 + lineEndCount rest
  | char :: rest => (if char = '\n' ∨ char = '\r' then 1 else 0) + lineEndCount rest

/-- The bytes of characters. -/
def encode (chars : List Char) : List UInt8 := chars.flatMap String.utf8EncodeChar

theorem encode_append (left right : List Char) :
    encode (left ++ right) = encode left ++ encode right :=
  List.flatMap_append

theorem toList_toUTF8 (text : String) : text.toUTF8.toList = encode text.toList := by
  rw [toList_eq_data, String.toUTF8, ← String.utf8Encode_toList, List.utf8Encode,
    List.toList_data_toByteArray, encode]

/-- A byte below 128 occurs only as the character that it stands for. -/
theorem eq_of_mem_utf8EncodeChar {char plain : Char} (isPlain : plain.toNat < 128)
    (isByte : UInt8.ofNat plain.toNat ∈ String.utf8EncodeChar char) : char = plain := by
  have isCode : char.val.toNat = char.toNat := rfl
  revert isByte
  fun_cases String.utf8EncodeChar char <;>
    simp only [List.mem_cons, List.not_mem_nil, or_false, ← UInt8.toNat_inj,
      UInt8.toNat_ofNat', ← Char.toNat_inj] <;>
    omega

theorem head?_of_encode {plain : Char} {chars : List Char} (isPlain : plain.toNat < 128)
    (isHead : (encode chars).head? = some (UInt8.ofNat plain.toNat)) :
    chars.head? = some plain := by
  cases chars with
  | nil => cases isHead
  | cons char rest =>
      rw [encode, List.flatMap_cons,
        List.head?_append_of_ne_nil _ String.utf8EncodeChar_ne_nil] at isHead
      rw [List.head?_cons, eq_of_mem_utf8EncodeChar isPlain (List.mem_of_head? isHead)]

theorem getLast?_of_encode {plain : Char} {chars : List Char} (isPlain : plain.toNat < 128)
    (isLast : (encode chars).getLast? = some (UInt8.ofNat plain.toNat)) :
    chars.getLast? = some plain := by
  rcases List.eq_nil_or_concat' chars with rfl | ⟨front, char, rfl⟩
  · cases isLast
  · rw [encode, List.flatMap_append, List.flatMap_singleton,
      List.getLast?_append_of_ne_nil _ String.utf8EncodeChar_ne_nil] at isLast
    rw [List.getLast?_concat, eq_of_mem_utf8EncodeChar isPlain (List.mem_of_getLast? isLast)]

theorem apart_encode {front back : List Char}
    (apart : ¬(front.getLast? = some '\r' ∧ back.head? = some '\n')) :
    ¬Joins (encode front) (encode back) := by
  rintro ⟨isReturn, isFeed⟩
  exact apart ⟨getLast?_of_encode (by decide) isReturn, head?_of_encode (by decide) isFeed⟩

theorem length_lineEnds_singleton (char : Char) (offset : Nat) :
    (lineEnds (encode [char]) offset).length = if char = '\n' ∨ char = '\r' then 1 else 0 := by
  split
  · next isEnd => rcases isEnd with rfl | rfl <;> rfl
  · next noEnd =>
    rw [encode, List.flatMap_singleton, lineEnds_eq_nil, List.length_nil]
    intro byte isByte
    constructor
    · rintro rfl
      exact noEnd (Or.inl (eq_of_mem_utf8EncodeChar (by decide) isByte))
    · rintro rfl
      exact noEnd (Or.inr (eq_of_mem_utf8EncodeChar (by decide) isByte))

/-- Bytes of characters have the line ends that the characters have. -/
theorem length_lineEnds_encode (chars : List Char) (offset : Nat) :
    (lineEnds (encode chars) offset).length = lineEndCount chars := by
  fun_induction lineEndCount chars generalizing offset with
  | case1 => rfl
  | case2 rest ih =>
      have isEncoded : encode ('\r' :: '\n' :: rest) = 13 :: 10 :: encode rest := rfl
      rw [isEncoded, lineEnds, List.length_cons, ih, Nat.add_comm]
  | case3 char rest notFollowed ih =>
      -- The first character is cut off; it does not come together with the next one.
      have apart : ¬Joins (encode [char]) (encode rest) := by
        apply apart_encode
        rintro ⟨isReturn, isFeed⟩
        rcases List.head?_eq_some_iff.mp isFeed with ⟨later, isRest⟩
        exact notFollowed later (Option.some.inj isReturn) isRest
      rw [← List.singleton_append, encode_append, lineEnds_append apart, List.length_append, ih,
        length_lineEnds_singleton]

/-- No carriage return at the end of a text meets a line feed at the beginning of another. -/
def Apart (front back : String) : Prop :=
  ¬(front.toList.getLast? = some '\r' ∧ back.toList.head? = some '\n')

instance (front back : String) : Decidable (Apart front back) := inferInstanceAs (Decidable ¬_)

/-- What comes before a text moves all lines of it down by its line ends. -/
theorem lineOf_behind {front back : String} (apart : Apart front back) (offset : Nat) :
    (ofText (front ++ back)).lineOf (offset + front.utf8ByteSize) =
      (ofText back).lineOf offset + lineEndCount front.toList := by
  have noJoin : ¬JoinsText front back := by
    rw [JoinsText, toList_toUTF8, toList_toUTF8]
    exact apart_encode apart
  rw [Nat.add_comm offset, lineOf_append_right noJoin, toList_toUTF8, length_lineEnds_encode,
    Nat.add_comm]

end LineTable

/-! ## Texts behind a text -/

namespace SourceUnit

open LineTable

theorem text_behind {here there : SourceUnit} {front : String}
    (isBehind : there.source = front ++ here.source) (node : Node) :
    (there.text (node.moved front.utf8ByteSize)).toOption = (here.text node).toOption := by
  have surrounds : there.source = front ++ here.source ++ "" := by
    rw [isBehind, String.append_empty]
  by_cases readable : Readable there (node.moved front.utf8ByteSize)
  · -- Both ends are positions behind the front, and so they are positions of the source.
    rcases readable with ⟨covered, isCovered⟩
    rw [text, Node.span_moved, slice_eq_ok_iff, isBehind, Span.start_moved,
      Span.stop_moved] at isCovered
    rcases isCovered with ⟨isStart, isStop, _⟩
    rw [text_moved surrounds (isPosition_of_append isStart) (isPosition_of_append isStop)]
  · have unreadable : ¬Readable here node := by
      rintro ⟨covered, isCovered⟩
      refine readable ⟨covered, ?_⟩
      rw [text, Node.span_moved, slice_moved surrounds isCovered]
    rw [Readable, succeeds_iff_isSome, Option.not_isSome_iff_eq_none] at readable unreadable
    rw [readable, unreadable]

theorem displaced_behind {front source : String} (apart : Apart front source)
    (root other : Node) {node : Node} (isWord : node.span.stop + front.utf8ByteSize < wordCount) :
    Displaced (ofTree source root) (ofTree (front ++ source) other) front.utf8ByteSize
      (lineEndCount front.toList) node where
  startLine := lineOf_behind apart node.span.start
  stopLine := by
    rw [stopOf_of_word (Nat.lt_of_le_of_lt (Nat.le_add_right _ _) isWord),
      stopOf_of_word (by rwa [Span.stop_moved]), Span.stop_moved]
    exact lineOf_behind apart node.span.stop
  texts child _ := text_behind rfl child

/--
Extraction goes along with the text: behind another text it succeeds just if it does without it, and
the facts are the same, except that all lines are moved down by the line ends of that text. No span
may go on behind all words.
-/
theorem extract_behind {front source : String} (apart : Apart front source) {root : Node}
    (areWords : ∀ node ∈ root.preorder, node.span.stop + front.utf8ByteSize < wordCount) :
    (Succeeds (ofTree (front ++ source) (root.moved front.utf8ByteSize)).extract ↔
      Succeeds (ofTree source root).extract) ∧
    ∀ facts, (ofTree source root).extract = .ok facts →
      (ofTree (front ++ source) (root.moved front.utf8ByteSize)).extract =
        .ok (facts.movedDown (lineEndCount front.toList)) := by
  have goesAlong : ∀ facts,
      (ofTree (front ++ source) (root.moved front.utf8ByteSize)).extract = .ok facts ↔
        ∃ original, (ofTree source root).extract = .ok original ∧
          facts = original.movedDown (lineEndCount front.toList) :=
    extract_eq_ok_iff_displaced (Node.methods_moved front.utf8ByteSize root)
      fun node isMethod => displaced_behind apart root _
        (areWords node (List.mem_of_mem_filter isMethod))
  constructor
  · constructor
    · rintro ⟨facts, isOk⟩
      rcases (goesAlong facts).mp isOk with ⟨original, isOriginal, _⟩
      exact ⟨original, isOriginal⟩
    · rintro ⟨original, isOriginal⟩
      exact ⟨_, (goesAlong _).mpr ⟨original, isOriginal, rfl⟩⟩
  · intro facts isOk
    exact (goesAlong _).mpr ⟨facts, isOk, rfl⟩

/-! ## A method behind three kinds of line ends -/

namespace MixedLineEnds

/-- Three line ends, the last one a carriage return at the very end. -/
def front : String := "// é\r\n\n\r"

def source : String := "m() \x7b x.f(\nñ); \x7d"

def call : Node :=
  .methodInvocation ⟨6, 8⟩ "f" (some (.expression ⟨6, 1⟩ "identifier" []))
    [.expression ⟨11, 2⟩ "identifier" []]

/-- The method; it is said to go on after the end of the source. -/
def root : Node := .methodDeclaration ⟨0, 40⟩ "m" [] (some [call])

theorem preorder_root : root.preorder = [root, call, .expression ⟨6, 1⟩ "identifier" [],
    .expression ⟨11, 2⟩ "identifier" []] := by
  have areChildren : call.children = call.declaredChildren :=
    Node.mergeSort_eq_of_sorted (by decide)
  have isBelow : call.preorder = [call, .expression ⟨6, 1⟩ "identifier" [],
      .expression ⟨11, 2⟩ "identifier" []] := by
    rw [Node.preorder_eq, areChildren]
    simp [call, Node.preorderAll, Node.preorder_eq, Node.children, Node.declaredChildren]
  rw [Node.preorder_eq, ← isBelow]
  simp [root, Node.preorderAll, Node.children, Node.declaredChildren]

theorem extract_root : (ofTree source root).extract =
    .ok ⟨#[⟨"m", 1, 2, []⟩], #[⟨"f", 1, 1, ["ñ"]⟩], ⟨#[("x", #["f"])]⟩⟩ := by
  rw [extract_eq_ok_iff, ofTree, preorder_root]
  decide +kernel

/-- Behind nine bytes with three line ends the facts are the same, three lines further down. -/
theorem extract_behind_front : (ofTree (front ++ source) (root.moved 9)).extract =
    .ok ⟨#[⟨"m", 4, 5, []⟩], #[⟨"f", 4, 1, ["ñ"]⟩], ⟨#[("x", #["f"])]⟩⟩ := by
  have apart : Apart front source := by decide +kernel
  have size : front.utf8ByteSize = 9 := by decide +kernel
  have lineEnds : lineEndCount front.toList = 3 := by decide +kernel
  have areWords : ∀ node ∈ root.preorder, node.span.stop + front.utf8ByteSize < wordCount := by
    rw [preorder_root, size]
    decide
  have isExtract := (extract_behind apart areWords).2 _ extract_root
  rw [size, lineEnds] at isExtract
  simpa [Facts.movedDown, Declaration.movedDown, Call.movedDown] using isExtract

end MixedLineEnds

end SourceUnit

end JavaFacts
