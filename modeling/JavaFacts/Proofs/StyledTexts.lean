import JavaFacts.Proofs.DeclarationTexts

/-!
# Reports with and without styles

A style is two sequences around a text. If the text itself holds no escape character, there is no
other sequence in it, and without the sequences it is what is written where no styles are used. A
report consists of such texts and of plain ones, so a styled report without its sequences is the
plain report.
-/

namespace JavaFacts.Report

open String.Slice.Pattern
open String.Slice.Pattern.Model

/-! ## Nothing to replace -/

theorem copy_slice_append {whole : String.Slice} {start stop : whole.Pos} (inOrder : start ≤ stop) :
    (whole.slice start stop inOrder).copy ++ (whole.sliceFrom stop).copy =
      (whole.sliceFrom start).copy := by
  rcases String.Slice.copy_slice_eq_iff_splits.mp ⟨inOrder, rfl⟩ with
    ⟨front, back, atStart, atStop⟩
  rw [atStart.copy_sliceFrom_eq, atStop.copy_sliceFrom_eq]

/-- A search without a match goes over all of the text that is left. -/
theorem foldl_of_noMatch {pattern : String} {whole : String.Slice} {start : whole.Pos}
    {steps : List (SearchStep whole)} {combine : String → SearchStep whole → String}
    (keeps : ∀ done start stop,
      combine done (.rejected start stop) = done ++ (whole.slice! start stop).copy)
    (noMatch : ∀ place : whole.Pos, ¬MatchesAt pattern place)
    (isSearch : IsValidSearchFrom pattern start steps) (done : String) :
    steps.foldl combine done = done ++ (whole.sliceFrom start).copy := by
  induction isSearch generalizing done with
  | endPos => simp
  | matched isMatch _ _ => exact absurd isMatch.matchesAt (noMatch _)
  | mismatched isBefore _ _ ih =>
      rw [List.foldl_cons, ih, keeps, ← String.Slice.slice_eq_slice! (h := Std.le_of_lt isBefore),
        String.append_assoc, copy_slice_append]

theorem replace_of_not_contains {text pattern : String} (notEmpty : pattern ≠ "")
    (isAbsent : text.contains pattern = false) (new : String) :
    text.replace pattern new = text := by
  have lawful := ForwardStringSearcher.lawfulToForwardSearcherModel notEmpty
  have isSearch := lawful.isValidSearchFrom_toList text.toSlice
  have noMatch : ∀ place : text.toSlice.Pos, ¬MatchesAt pattern place := by
    intro place isMatch
    rw [String.contains_string_eq_false_iff] at isAbsent
    rcases ForwardStringSearcher.exists_matchesAt_iff_eq_append.mp ⟨place, isMatch⟩ with
      ⟨front, back, split⟩
    rw [String.copy_toSlice] at split
    exact isAbsent ⟨front.toList, back.toList, by simp [split]⟩
  unfold String.replace String.Slice.replace
  rw [← Std.Iter.foldl_toList, foldl_of_noMatch (fun _ _ _ => rfl) noMatch isSearch]
  simp

/-! ## Texts without style sequences -/

/-- The characters of a text without its style sequences. A sequence begins with the escape
character and a bracket and ends with the next `m`. -/
def withoutStyles : List Char → List Char
  | [] => []
  | '\x1b' :: '[' :: rest =>
    if 'm' ∈ rest then withoutStyles (rest.dropWhile (· != 'm')).tail
    else '\x1b' :: '[' :: withoutStyles rest
  | character :: rest => character :: withoutStyles rest
termination_by characters => characters.length
decreasing_by
  · have isShorter := (List.dropWhile_sublist (l := rest) (· != 'm')).length_le
    simp only [List.length_tail, List.length_cons]
    omega
  · simp only [List.length_cons]
    omega
  · simp

/-- A text without its style sequences. -/
def unstyled (text : String) : String := String.ofList (withoutStyles text.toList)

/-- A text without the character that begins style sequences. -/
def IsBare (text : String) : Prop := '\x1b' ∉ text.toList

instance (text : String) : Decidable (IsBare text) :=
  inferInstanceAs (Decidable (_ ∉ _))

/-- Without its style sequences a text is another one, whatever comes after it. A sequence that the
text leaves open would take up some of what comes after it. -/
def Strips (styled plain : String) : Prop :=
  ∀ rest, withoutStyles (styled.toList ++ rest) = plain.toList ++ withoutStyles rest

theorem withoutStyles_cons {character : Char} (isOther : character ≠ '\x1b') (rest : List Char) :
    withoutStyles (character :: rest) = character :: withoutStyles rest := by
  rw [withoutStyles]
  intro _ isSame
  exact absurd isSame isOther

theorem withoutStyles_append {front : List Char} (noEscape : '\x1b' ∉ front) (rest : List Char) :
    withoutStyles (front ++ rest) = front ++ withoutStyles rest := by
  induction front with
  | nil => rfl
  | cons character front ih =>
      rw [List.mem_cons, not_or] at noEscape
      rw [List.cons_append, withoutStyles_cons (Ne.symm noEscape.1), ih noEscape.2,
        List.cons_append]

theorem withoutStyles_sequence {codes : List Char} (noEnd : 'm' ∉ codes) (rest : List Char) :
    withoutStyles ('\x1b' :: '[' :: (codes ++ 'm' :: rest)) = withoutStyles rest := by
  have isDropped : (codes ++ 'm' :: rest).dropWhile (· != 'm') = 'm' :: rest := by
    rw [List.dropWhile_append_of_pos]
    · simp
    · intro character isThere
      rw [bne_iff_ne]
      rintro rfl
      exact noEnd isThere
  rw [withoutStyles, if_pos (by simp), isDropped, List.tail_cons]

namespace Strips

theorem of_isBare {text : String} (isBare : IsBare text) : Strips text text :=
  withoutStyles_append isBare

theorem of_sequence {sequence : String} (codes : List Char)
    (isSequence : sequence.toList = '\x1b' :: '[' :: (codes ++ ['m'])) (noEnd : 'm' ∉ codes) :
    Strips sequence "" := by
  intro rest
  rw [isSequence, List.cons_append, List.cons_append, List.append_assoc, List.singleton_append,
    withoutStyles_sequence noEnd]
  rfl

theorem append {styled plain laterStyled laterPlain : String} (first : Strips styled plain)
    (later : Strips laterStyled laterPlain) :
    Strips (styled ++ laterStyled) (plain ++ laterPlain) := by
  intro rest
  rw [String.toList_append, String.toList_append, List.append_assoc, first, later,
    List.append_assoc]

theorem join {α : Type} {items : List α} {styled plain : α → String}
    (all : ∀ item ∈ items, Strips (styled item) (plain item)) :
    Strips (String.join (items.map styled)) (String.join (items.map plain)) := by
  induction items with
  | nil => exact fun rest => rfl
  | cons first items ih =>
      rw [List.forall_mem_cons] at all
      rw [List.map_cons, List.map_cons, String.join_cons, String.join_cons]
      exact all.1.append (ih all.2)

theorem unstyled_eq {styled plain : String} (strips : Strips styled plain) :
    unstyled styled = plain := by
  have atEnd := strips []
  rw [List.append_nil] at atEnd
  rw [unstyled, atEnd, withoutStyles, List.append_nil, String.ofList_toList]

end Strips

/-! ## Styles -/

theorem strips_opening (style : Style) : Strips style.opening "" := by
  cases style with
  | header => exact .of_sequence ['1'] (by decide +kernel) (by decide)
  | error => exact .of_sequence ['3', '1'] (by decide +kernel) (by decide)
  | title => exact .of_sequence ['1', ';', '3', '6'] (by decide +kernel) (by decide)

theorem strips_reset : Strips Style.reset "" :=
  .of_sequence ['0'] (by decide +kernel) (by decide)

theorem not_contains_reset {text : String} (isBare : IsBare text) :
    text.contains Style.reset = false := by
  rw [String.contains_string_eq_false_iff]
  intro isInside
  exact isBare (isInside.subset (by decide +kernel))

theorem strips_apply {text : String} (isBare : IsBare text) (style : Style) :
    Strips (style.apply true text) (style.apply false text) := by
  have isWrapped : style.apply true text = style.opening ++ text ++ Style.reset := by
    rw [Style.apply, if_pos rfl, Style.wrap,
      replace_of_not_contains (by decide +kernel) (not_contains_reset isBare)]
  have strips := ((strips_opening style).append (.of_isBare isBare)).append strips_reset
  rw [String.empty_append, String.append_empty] at strips
  rw [isWrapped]
  exact strips

/-! ## Reports -/

theorem isBare_append {front back : String} :
    IsBare (front ++ back) ↔ IsBare front ∧ IsBare back := by
  simp [IsBare]

theorem isBare_toString (number : Nat) : IsBare (toString number) := by
  have noEscape : '\x1b' ∉ Nat.toDigits 10 number := not_mem_toDigits (by decide)
  simpa [IsBare] using noEscape

theorem isBare_intercalate {texts : List String} (areBare : ∀ text ∈ texts, IsBare text) :
    IsBare (String.intercalate ", " texts) :=
  not_mem_intercalate (by decide) areBare

theorem isBare_join {α : Type} {items : List α} {text : α → String}
    (areBare : ∀ item ∈ items, IsBare (text item)) : IsBare (String.join (items.map text)) := by
  induction items with
  | nil => exact List.not_mem_nil
  | cons first items ih =>
      rw [List.forall_mem_cons] at areBare
      rw [List.map_cons, String.join_cons, isBare_append]
      exact ⟨areBare.1, ih areBare.2⟩

/-- Facts of which all names and texts are bare. -/
structure HasBareTexts (facts : Facts) : Prop where
  declarations : ∀ declaration ∈ facts.declarations,
    IsBare declaration.name ∧ ∀ name ∈ declaration.variableNames, IsBare name
  calls : ∀ call ∈ facts.calls, IsBare call.name ∧ ∀ argument ∈ call.argumentTexts, IsBare argument
  receivers : ∀ entry ∈ facts.receivers.entries, IsBare entry.1 ∧ ∀ name ∈ entry.2, IsBare name

/-- A report with a bare path, of which the fault or the facts are bare as well. -/
structure FileReport.HasBareTexts (report : FileReport) : Prop where
  path : IsBare report.path
  fault : ∀ fault, report.outcome = .error fault → IsBare fault.message
  facts : ∀ facts, report.outcome = .ok facts → Report.HasBareTexts facts

theorem isBare_describe_declaration {declaration : Declaration} (name : IsBare declaration.name)
    (variableNames : ∀ name ∈ declaration.variableNames, IsBare name) :
    IsBare declaration.describe := by
  have ofVariables : IsBare (if declaration.variableNames.isEmpty then "No Variables"
      else String.intercalate ", " declaration.variableNames) := by
    split
    · decide
    · exact isBare_intercalate variableNames
  unfold Declaration.describe
  simp only [isBare_append, and_assoc]
  exact ⟨by decide, name, by decide, isBare_toString _, by decide, isBare_toString _, by decide,
    ofVariables, by decide⟩

theorem isBare_describe_call {call : Call} (name : IsBare call.name)
    (arguments : ∀ argument ∈ call.argumentTexts, IsBare argument) : IsBare call.describe := by
  unfold Call.describe
  simp only [isBare_append, and_assoc]
  exact ⟨by decide, name, by decide, isBare_toString _, by decide, isBare_toString _, by decide,
    isBare_intercalate arguments, by decide⟩

theorem isBare_sectionBody {facts : Facts} (bare : HasBareTexts facts) (chosen : Section) :
    IsBare (chosen.body facts) := by
  cases chosen with
  | declarations =>
      refine isBare_join fun declaration isThere => ?_
      have parts := bare.declarations declaration (by simpa using isThere)
      exact isBare_append.mpr ⟨isBare_describe_declaration parts.1 parts.2, by decide⟩
  | signatures =>
      refine isBare_join fun call isThere => ?_
      have parts := bare.calls call (by simpa using isThere)
      exact isBare_append.mpr ⟨isBare_describe_call parts.1 parts.2, by decide⟩
  | receivers =>
      refine isBare_append.mpr ⟨isBare_join ?_, by decide⟩
      rintro ⟨receiver, names⟩ isThere
      have parts := bare.receivers (receiver, names) (by simpa using isThere)
      simp only [isBare_append, and_assoc]
      exact ⟨parts.1, by decide, isBare_intercalate (by simpa using parts.2), by decide⟩

theorem strips_header {report : FileReport} (bare : report.HasBareTexts)
    (sections : List Section) (headers : Bool) :
    Strips (report.header ⟨sections, true, headers⟩)
      (report.header ⟨sections, false, headers⟩) := by
  unfold FileReport.header
  split
  · have isBare : IsBare ("== " ++ report.path ++ " ==") := by
      simp only [isBare_append, and_assoc]
      exact ⟨by decide, bare.path, by decide⟩
    exact (strips_apply isBare .header).append (.of_isBare (by decide))
  · exact .of_isBare (by decide)

theorem strips_body {report : FileReport} (bare : report.HasBareTexts)
    (sections : List Section) (headers : Bool) :
    Strips (report.body ⟨sections, true, headers⟩)
      (report.body ⟨sections, false, headers⟩) := by
  unfold FileReport.body
  split
  · next fault isFault =>
    have isBare : IsBare ("error: " ++ fault.message) :=
      isBare_append.mpr ⟨by decide, bare.fault fault isFault⟩
    exact (strips_apply isBare .error).append (.of_isBare (by decide))
  · next facts isFacts =>
    refine .join fun chosen _ => ?_
    have titleBare : IsBare chosen.title := by
      cases chosen <;> decide
    have bodyBare := isBare_sectionBody (bare.facts facts isFacts) chosen
    exact ((strips_apply titleBare .title).append (.of_isBare (by decide))).append
      (.of_isBare bodyBare)

/-- Without its style sequences a styled report is the plain report. -/
theorem unstyled_text {reports : List FileReport}
    (bare : ∀ report ∈ reports, report.HasBareTexts) (sections : List Section) (headers : Bool) :
    unstyled (text ⟨sections, true, headers⟩ reports) =
      text ⟨sections, false, headers⟩ reports := by
  refine Strips.unstyled_eq (.join fun report isThere => ?_)
  have isBare := bare report isThere
  exact (strips_header isBare sections headers).append (strips_body isBare sections headers)

namespace BracketedTexts

/-- Facts with texts that look like the rest of a style sequence. -/
def facts : Facts where
  declarations := #[⟨"m", 1, 3, ["a", "m0"]⟩, ⟨"n", 4, 4, []⟩]
  calls := #[⟨"f", 2, 2, ["\"[0m\"", "b[\n1]"]⟩]
  receivers := ⟨#[("rows[1m]", #["f", "f"])]⟩

/-- A file that cannot be read, and one with facts. -/
def reports : List FileReport :=
  [⟨"[31m.java", .error (.unreadable "[31m.java" .notFound)⟩, ⟨"B.java", .ok facts⟩]

theorem hasBareTexts : ∀ report ∈ reports, report.HasBareTexts := by
  have ofFacts : HasBareTexts facts :=
    ⟨by decide +kernel, by decide +kernel, by decide +kernel⟩
  simp only [reports, List.forall_mem_cons, List.not_mem_nil, false_imp_iff, implies_true, and_true]
  refine ⟨⟨by decide +kernel, ?_, ?_⟩, ⟨by decide +kernel, ?_, ?_⟩⟩
  · rintro fault ⟨⟩
    decide +kernel
  · rintro facts ⟨⟩
  · rintro fault ⟨⟩
  · rintro facts ⟨⟩
    exact ofFacts

theorem unstyled_text_bracketedTexts :
    (∀ report ∈ reports, report.HasBareTexts) ∧
      text ⟨[.receivers, .signatures, .receivers], true, true⟩ reports ≠
        text ⟨[.receivers, .signatures, .receivers], false, true⟩ reports ∧
      unstyled (text ⟨[.receivers, .signatures, .receivers], true, true⟩ reports) =
        text ⟨[.receivers, .signatures, .receivers], false, true⟩ reports :=
  ⟨hasBareTexts, by decide +kernel, unstyled_text hasBareTexts _ _⟩

end BracketedTexts

end JavaFacts.Report
