import JavaFacts.Report.Text
import JavaFacts.Syntax.Name

/-!
# Declarations read off a report

A report has five lines on every declaration, so the declarations can be told apart by counting
lines. A plain name holds no line feed, and neither does a number; that is why lines can be told
apart. It holds no comma either, so the names of variables can be told apart, and no blank, so that
no name is taken for the words that stand where there are no variables.
-/

namespace JavaFacts

/-! ## Characters of plain names -/

theorem Name.isLater_of_isFirst {character : Char} (isFirst : Name.isFirst character) :
    Name.isLater character := by
  simp only [Name.isFirst, Bool.or_eq_true] at isFirst
  rcases isFirst with (isLetter | isLine) | isDollar
  · simp [Name.isLater, isLetter]
  · simp [Name.isLater, isLine]
  · simp [Name.isLater, isDollar]

theorem Name.isLater_of_mem {name : String} (isPlain : Name.isPlain name) {character : Char}
    (isThere : character ∈ name.toList) : Name.isLater character := by
  rw [Name.isPlain] at isPlain
  split at isPlain
  · cases isPlain
  · next first rest isName =>
    rw [Bool.and_eq_true, List.all_eq_true] at isPlain
    rw [isName] at isThere
    rcases List.mem_cons.mp isThere with rfl | isRest
    · exact Name.isLater_of_isFirst isPlain.1
    · exact isPlain.2 character isRest

theorem Name.not_mem_of_isPlain {name : String} (isPlain : Name.isPlain name) {character : Char}
    (isForeign : Name.isLater character = false) : character ∉ name.toList := by
  intro isThere
  simp [Name.isLater_of_mem isPlain isThere] at isForeign

theorem Name.not_isLater_lineFeed : Name.isLater '\n' = false := by decide +kernel

/-! ## Characters of numbers and lists -/

theorem not_mem_toDigits {number : Nat} {character : Char} (isForeign : character.isDigit = false) :
    character ∉ Nat.toDigits 10 number := by
  intro isThere
  have isDigit := Nat.isDigit_of_mem_toDigits (by decide) (by decide) isThere
  simp [isDigit] at isForeign

theorem eq_of_toString_eq {left right : Nat} (isSame : toString left = toString right) :
    left = right := by
  have sameValue := congrArg (fun text => Nat.ofDigitChars 10 text.toList 0) isSame
  simpa using sameValue

theorem not_mem_intercalate {separator : String} {texts : List String} {character : Char}
    (notBetween : character ∉ separator.toList)
    (notThere : ∀ text ∈ texts, character ∉ text.toList) :
    character ∉ (separator.intercalate texts).toList := by
  induction texts with
  | nil => simp
  | cons first rest ih =>
      rw [List.forall_mem_cons] at notThere
      rcases rest with _ | ⟨second, rest⟩
      · simpa using notThere.1
      · rw [String.intercalate_cons_cons]
        simp only [String.toList_append, List.mem_append, not_or]
        exact ⟨⟨notThere.1, notBetween⟩, ih notThere.2⟩

/-! ## Lines -/

namespace Report

/-- Lines as a text, with a line feed after each of them. -/
def unlines (lines : List String) : String := String.join (lines.map (· ++ "\n"))

theorem unlines_nil : unlines [] = "" := String.join_nil

theorem unlines_cons (line : String) (lines : List String) :
    unlines (line :: lines) = line ++ "\n" ++ unlines lines := by
  simp [unlines]

theorem unlines_append (front back : List String) :
    unlines (front ++ back) = unlines front ++ unlines back := by
  simp [unlines]

theorem splitOn_unlines {lines : List String} (unbroken : ∀ line ∈ lines, '\n' ∉ line.toList) :
    (unlines lines).toList.splitOn '\n' = lines.map String.toList ++ [[]] := by
  induction lines with
  | nil => rfl
  | cons line lines ih =>
      rw [List.forall_mem_cons] at unbroken
      have isSplit : (unlines (line :: lines)).toList =
          line.toList ++ '\n' :: (unlines lines).toList := by
        simp [unlines_cons]
      rw [isSplit, List.splitOn_append_cons_self_of_not_mem unbroken.1, ih unbroken.2]
      rfl

theorem eq_of_unlines_eq {left right : List String}
    (leftUnbroken : ∀ line ∈ left, '\n' ∉ line.toList)
    (rightUnbroken : ∀ line ∈ right, '\n' ∉ line.toList)
    (isSame : unlines left = unlines right) : left = right := by
  have sameLines := congrArg (fun text => text.toList.splitOn '\n') isSame
  rw [splitOn_unlines leftUnbroken, splitOn_unlines rightUnbroken] at sameLines
  exact (List.map_inj_right fun _ _ => String.toList_inj.mp).mp
    (List.append_cancel_right sameLines)

/-! ## Names of variables -/

/-- The names of variables with commas between them, or that there are none. -/
def variablesText (names : List String) : String :=
  if names.isEmpty then "No Variables" else String.intercalate ", " names

theorem variablesText_nil : variablesText [] = "No Variables" := rfl

theorem variablesText_cons (first : String) (rest : List String) :
    variablesText (first :: rest) = String.intercalate ", " (first :: rest) := rfl

theorem splitOn_intercalate_comma {first : List Char} {rest : List (List Char)}
    (noComma : ∀ name ∈ first :: rest, ',' ∉ name) :
    ([',', ' '].intercalate (first :: rest)).splitOn ',' = first :: rest.map (' ' :: ·) := by
  induction rest generalizing first with
  | nil => simpa using List.splitOn_eq_singleton (noComma first (by simp))
  | cons second rest ih =>
      have isJoined : [',', ' '].intercalate (first :: second :: rest) =
          first ++ ',' :: [',', ' '].intercalate ((' ' :: second) :: rest) := by
        cases rest <;> simp
      have laterNoComma : ∀ name ∈ (' ' :: second) :: rest, ',' ∉ name := by
        simp_all
      rw [isJoined, List.splitOn_append_cons_self_of_not_mem (noComma first (by simp)),
        ih laterNoComma]
      rfl

theorem unbroken_variablesText {names : List String}
    (arePlain : ∀ name ∈ names, Name.isPlain name) : '\n' ∉ (variablesText names).toList := by
  rcases names with _ | ⟨first, rest⟩
  · rw [variablesText_nil]
    decide
  · rw [variablesText_cons]
    exact not_mem_intercalate (by decide) fun name isName =>
      Name.not_mem_of_isPlain (arePlain name isName) Name.not_isLater_lineFeed

theorem splitOn_variablesText {first : String} {rest : List String}
    (arePlain : ∀ name ∈ first :: rest, Name.isPlain name) :
    (variablesText (first :: rest)).toList.splitOn ',' =
      first.toList :: rest.map (' ' :: ·.toList) := by
  have noComma : ∀ name ∈ first.toList :: rest.map String.toList, ',' ∉ name := by
    intro name isName
    rcases List.mem_map.mp (List.map_cons ▸ isName) with ⟨text, isText, rfl⟩
    exact Name.not_mem_of_isPlain (arePlain text isText) (by decide +kernel)
  have isJoined : (variablesText (first :: rest)).toList =
      [',', ' '].intercalate (first.toList :: rest.map String.toList) := by
    simp [variablesText_cons]
  rw [isJoined, splitOn_intercalate_comma noComma, List.map_map]
  rfl

/-- No names are written like the words that stand for no variables. -/
theorem variablesText_ne_of_isPlain {first : String} {rest : List String}
    (arePlain : ∀ name ∈ first :: rest, Name.isPlain name) :
    variablesText (first :: rest) ≠ variablesText [] := by
  intro isSame
  have parts := splitOn_variablesText arePlain
  have words : (variablesText []).toList.splitOn ',' = ["No Variables".toList] := by
    rw [variablesText_nil, List.splitOn_eq_singleton (by decide)]
  rw [isSame, words, List.cons.injEq] at parts
  have isForeign : Name.isLater ' ' = false := by decide +kernel
  have noBlank := Name.not_mem_of_isPlain (arePlain first (by simp)) isForeign
  rw [← parts.1] at noBlank
  exact noBlank (by decide +kernel)

theorem variablesText_injective {left right : List String}
    (leftPlain : ∀ name ∈ left, Name.isPlain name) (rightPlain : ∀ name ∈ right, Name.isPlain name)
    (isSame : variablesText left = variablesText right) : left = right := by
  rcases left with _ | ⟨leftFirst, leftRest⟩
  · rcases right with _ | ⟨rightFirst, rightRest⟩
    · rfl
    · exact absurd isSame.symm (variablesText_ne_of_isPlain rightPlain)
  · rcases right with _ | ⟨rightFirst, rightRest⟩
    · exact absurd isSame (variablesText_ne_of_isPlain leftPlain)
    · have parts := congrArg (fun text => text.toList.splitOn ',') isSame
      simp only [splitOn_variablesText leftPlain, splitOn_variablesText rightPlain,
        List.cons.injEq, String.toList_inj] at parts
      have sameRest : leftRest = rightRest := by
        refine (List.map_inj_right ?_).mp parts.2
        intro left right same
        exact String.toList_inj.mp (List.cons.inj same).2
      rw [parts.1, sameRest]

/-! ## Declarations -/

/-- A declaration of which all names are plain. -/
structure HasPlainNames (declaration : Declaration) : Prop where
  name : Name.isPlain declaration.name
  variableNames : ∀ name ∈ declaration.variableNames, Name.isPlain name

/-- The lines on a declaration. The last one is empty. -/
def declarationLines (declaration : Declaration) : List String :=
  ["Method Declaration: " ++ declaration.name,
    "Start Line: " ++ toString declaration.startLine,
    "End Line: " ++ toString declaration.endLine,
    "Variables declared in method : " ++ variablesText declaration.variableNames,
    ""]

theorem describe_eq_unlines (declaration : Declaration) :
    declaration.describe ++ "\n" = unlines (declarationLines declaration) := by
  have startLabel : "\nStart Line: " = "\n" ++ "Start Line: " := by decide +kernel
  have endLabel : "\nEnd Line: " = "\n" ++ "End Line: " := by decide +kernel
  have variablesLabel : "\nVariables declared in method : " =
      "\n" ++ "Variables declared in method : " := by decide +kernel
  unfold Declaration.describe
  rw [startLabel, endLabel, variablesLabel]
  simp only [declarationLines, unlines_cons, unlines_nil, variablesText, String.append_assoc,
    String.empty_append, String.append_empty, -String.reduceAppend]

theorem join_describe_eq_unlines (declarations : List Declaration) :
    String.join (declarations.map fun declaration => declaration.describe ++ "\n") =
      unlines (declarations.flatMap declarationLines) := by
  induction declarations with
  | nil => rfl
  | cons declaration declarations ih =>
      rw [List.map_cons, String.join_cons, ih, describe_eq_unlines, List.flatMap_cons,
        unlines_append]

theorem text_eq_unlines (path : String) (facts : Facts) :
    text ⟨[.declarations], false, false⟩ [⟨path, .ok facts⟩] =
      unlines (Section.declarations.title ::
        facts.declarations.toList.flatMap declarationLines) := by
  simp [text, FileReport.header, FileReport.body, Section.body, Style.apply,
    join_describe_eq_unlines, unlines_cons]

theorem unbroken_declarationLines {declaration : Declaration}
    (isPlain : HasPlainNames declaration) :
    ∀ line ∈ declarationLines declaration, '\n' ∉ line.toList := by
  have inName := Name.not_mem_of_isPlain isPlain.name Name.not_isLater_lineFeed
  have inNumber : ∀ number : Nat, '\n' ∉ Nat.toDigits 10 number :=
    fun number => not_mem_toDigits (by decide)
  have inVariables := unbroken_variablesText isPlain.variableNames
  simp [declarationLines, inName, inNumber, inVariables]

theorem declarationLines_injective {left right : Declaration} (leftPlain : HasPlainNames left)
    (rightPlain : HasPlainNames right) (isSame : declarationLines left = declarationLines right) :
    left = right := by
  simp only [declarationLines, List.cons.injEq, String.append_right_inj] at isSame
  rcases isSame with ⟨sameName, sameStart, sameEnd, sameVariables, -⟩
  have sameNames := variablesText_injective leftPlain.variableNames rightPlain.variableNames sameVariables
  rcases left with ⟨name, startLine, endLine, variableNames⟩
  rcases right with ⟨otherName, otherStart, otherEnd, otherNames⟩
  rw [Declaration.mk.injEq]
  exact ⟨sameName, eq_of_toString_eq sameStart, eq_of_toString_eq sameEnd, sameNames⟩

-- Every declaration has as many lines as any other, so that the first lines are those of the first.
theorem flatMap_declarationLines_injective {left right : List Declaration}
    (leftPlain : ∀ declaration ∈ left, HasPlainNames declaration)
    (rightPlain : ∀ declaration ∈ right, HasPlainNames declaration)
    (isSame : left.flatMap declarationLines = right.flatMap declarationLines) : left = right := by
  induction left generalizing right with
  | nil =>
      rcases right with _ | ⟨first, rest⟩
      · rfl
      · simp [declarationLines] at isSame
  | cons first rest ih =>
      rcases right with _ | ⟨otherFirst, otherRest⟩
      · simp [declarationLines] at isSame
      · rw [List.forall_mem_cons] at leftPlain rightPlain
        rw [List.flatMap_cons, List.flatMap_cons] at isSame
        rcases List.append_inj isSame rfl with ⟨sameFirst, sameRest⟩
        rw [declarationLines_injective leftPlain.1 rightPlain.1 sameFirst,
          ih leftPlain.2 rightPlain.2 sameRest]

/-- The plain text of the declarations tells the declarations, if all their names are plain. -/
theorem text_declarations_injective {left right : Facts}
    (leftPlain : ∀ declaration ∈ left.declarations, HasPlainNames declaration)
    (rightPlain : ∀ declaration ∈ right.declarations, HasPlainNames declaration)
    {leftPath rightPath : String}
    (isSame : text ⟨[.declarations], false, false⟩ [⟨leftPath, .ok left⟩] =
      text ⟨[.declarations], false, false⟩ [⟨rightPath, .ok right⟩]) :
    left.declarations = right.declarations := by
  have unbroken : ∀ facts : Facts,
      (∀ declaration ∈ facts.declarations, HasPlainNames declaration) →
      ∀ line ∈ Section.declarations.title :: facts.declarations.toList.flatMap declarationLines,
        '\n' ∉ line.toList := by
    intro facts arePlain line isLine
    rcases List.mem_cons.mp isLine with rfl | isLine
    · decide +kernel
    · rcases List.mem_flatMap.mp isLine with ⟨declaration, isThere, isLine⟩
      exact unbroken_declarationLines (arePlain declaration (by simpa using isThere)) line isLine
  rw [text_eq_unlines, text_eq_unlines] at isSame
  have sameLines := eq_of_unlines_eq (unbroken left leftPlain) (unbroken right rightPlain) isSame
  have sameList := flatMap_declarationLines_injective (by simpa using leftPlain)
    (by simpa using rightPlain) (List.cons.inj sameLines).2
  exact Array.toList_inj.mp sameList

namespace SimilarDeclarations

/-- A method without variables, and one whose variables have the names of the words for that. -/
def facts : Facts where
  declarations := #[⟨"m", 1, 12, []⟩, ⟨"m1", 2, 2, ["No", "Variables"]⟩]
  calls := #[]
  receivers := .empty

def others : Facts := { facts with calls := #[⟨"f", 1, 0, []⟩] }

theorem arePlain : ∀ declaration ∈ facts.declarations, HasPlainNames declaration := by
  simp only [facts, List.mem_toArray, List.forall_mem_cons, List.not_mem_nil, false_imp_iff,
    implies_true, and_true]
  exact ⟨⟨by decide +kernel, by decide +kernel⟩, ⟨by decide +kernel, by decide +kernel⟩⟩

theorem text_declarations_similarDeclarations :
    (∀ declaration ∈ facts.declarations, HasPlainNames declaration) ∧
      text ⟨[.declarations], false, false⟩ [⟨"A.java", .ok facts⟩] =
        text ⟨[.declarations], false, false⟩ [⟨"B.java", .ok others⟩] ∧
      facts.declarations = others.declarations := by
  have isSame : text ⟨[.declarations], false, false⟩ [⟨"A.java", .ok facts⟩] =
      text ⟨[.declarations], false, false⟩ [⟨"B.java", .ok others⟩] := by
    rw [text_eq_unlines, text_eq_unlines]
    rfl
  exact ⟨arePlain, isSame, text_declarations_injective arePlain arePlain isSame⟩

end SimilarDeclarations

end Report

end JavaFacts
