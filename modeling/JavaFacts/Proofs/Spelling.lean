import JavaFacts.Json.Value
import JavaFacts.Proofs.Readers

/-!
# Spellings of JSON values

A value can be spelled in many ways, since blanks can stand around its commas, its colons and inside
its brackets. The compact form and the pretty form of a value are two of its spellings. What is
proved about reading holds of all spellings, so that it is proved once for both forms.
-/

namespace JavaFacts.Json

/-- What stands before an element or a field: blanks, and a comma unless it is the first one. -/
inductive Separates : (first : Bool) → List Char → Prop
  | start {blanks : List Char} (areBlank : AreBlank blanks) : Separates true blanks
  | comma {before after : List Char} (areBlankBefore : AreBlank before)
      (areBlankAfter : AreBlank after) : Separates false (before ++ ',' :: after)

mutual

/-- A text spells a value. -/
inductive Spells : Value → List Char → Prop
  | null : Spells .null "null".toList
  | bool (truth : Bool) : Spells (.bool truth) (if truth then "true" else "false").toList
  | number (value : Nat) : Spells (.number value) (toString value).toList
  | text (content : String) : Spells (.text content) (quote content).toList
  | list {elements : List Value} {inner : List Char}
      (spelled : SpellsElements true elements inner) :
      Spells (.list elements) ('[' :: (inner ++ [']']))
  | object {fields : List (String × Value)} {inner : List Char}
      (spelled : SpellsFields true fields inner) :
      Spells (.object fields) ('\x7b' :: (inner ++ ['\x7d']))

/-- A text spells the elements up to the end of a list; `first` tells whether none came before. -/
inductive SpellsElements : (first : Bool) → List Value → List Char → Prop
  | done {first : Bool} {blanks : List Char} (areBlank : AreBlank blanks) :
      SpellsElements first [] blanks
  | next {first : Bool} {separator text rest : List Char} {element : Value} {elements : List Value}
      (separates : Separates first separator) (spelled : Spells element text)
      (later : SpellsElements false elements rest) :
      SpellsElements first (element :: elements) (separator ++ (text ++ rest))

/-- A text spells the fields up to the end of an object; `first` tells whether none came before. -/
inductive SpellsFields : (first : Bool) → List (String × Value) → List Char → Prop
  | done {first : Bool} {blanks : List Char} (areBlank : AreBlank blanks) :
      SpellsFields first [] blanks
  | next {first : Bool} {separator before after text rest : List Char} (name : String)
      {value : Value} {fields : List (String × Value)} (separates : Separates first separator)
      (areBlankBefore : AreBlank before) (areBlankAfter : AreBlank after)
      (spelled : Spells value text) (later : SpellsFields false fields rest) :
      SpellsFields first ((name, value) :: fields)
        (separator ++ ((quote name).toList ++ (before ++ ':' :: (after ++ (text ++ rest)))))

end

/-! ## The beginning of a spelling -/

/-- Characters as they are written in a text. -/
def escapeAll (characters : List Char) : List Char :=
  characters.flatMap fun character => (escape character).toList

theorem toList_quote (content : String) :
    (quote content).toList = '\"' :: (escapeAll content.toList ++ ['\"']) := by
  simp [quote, escapeAll, List.flatMap_map]

theorem exists_first_digit (number : Nat) :
    ∃ first later, Nat.toDigits 10 number = first :: later ∧ first.isDigit := by
  rcases isDigits : Nat.toDigits 10 number with _ | ⟨first, later⟩
  · exact absurd isDigits Nat.toDigits_ne_nil
  · have isThere : first ∈ Nat.toDigits 10 number := isDigits ▸ List.mem_cons_self
    exact ⟨first, later, rfl, Nat.isDigit_of_mem_toDigits (by decide) (by decide) isThere⟩

theorem isBlank_of_isDigit {character : Char} (isDigit : character.isDigit) :
    Cursor.isBlank character = false := by
  simp only [Cursor.isBlank, Bool.or_eq_false_iff, decide_eq_false_iff_not]
  refine ⟨⟨⟨?_, ?_⟩, ?_⟩, ?_⟩
  all_goals
    rintro rfl
    simp at isDigit

/-- A spelling begins with a character that is no blank and closes nothing. -/
theorem Spells.exists_first {value : Value} {text : List Char} (spelled : Spells value text) :
    ∃ first rest, text = first :: rest ∧ Cursor.isBlank first = false ∧ first ≠ ']' ∧
      (first = 'n' → value = .null) := by
  cases spelled with
  | null => exact ⟨'n', "ull".toList, rfl, rfl, by decide, fun _ => rfl⟩
  | bool truth =>
      cases truth with
      | true => exact ⟨'t', "rue".toList, rfl, rfl, by decide, by simp⟩
      | false => exact ⟨'f', "alse".toList, rfl, rfl, by decide, by simp⟩
  | number value =>
      rcases exists_first_digit value with ⟨first, later, isDigits, isDigit⟩
      rw [Nat.toString_eq_repr, Nat.toList_repr, isDigits]
      refine ⟨first, later, rfl, isBlank_of_isDigit isDigit, ?_, ?_⟩
      · rintro rfl
        simp at isDigit
      · rintro rfl
        simp at isDigit
  | text content => exact ⟨'\"', _, toList_quote content, rfl, by decide, by simp⟩
  | list spelled => exact ⟨'[', _, rfl, rfl, by decide, by simp⟩
  | object spelled => exact ⟨'\x7b', _, rfl, rfl, by decide, by simp⟩

/-! ## The written forms -/

/-- What holds of a list if it holds of its elements, and so for objects, holds of all values. -/
theorem Value.deep_induction {motive : Value → Prop} (null : motive .null)
    (bool : ∀ truth, motive (.bool truth)) (number : ∀ value, motive (.number value))
    (text : ∀ content, motive (.text content))
    (list : ∀ elements, (∀ element ∈ elements, motive element) → motive (.list elements))
    (object : ∀ fields, (∀ field ∈ fields, motive field.2) → motive (.object fields)) :
    ∀ value, motive value
  | .null => null
  | .bool truth => bool truth
  | .number value => number value
  | .text content => text content
  | .list elements => by
      apply list
      intro element isElement
      exact deep_induction null bool number text list object element
  | .object fields => by
      apply object
      rintro ⟨name, value⟩ isField
      exact deep_induction null bool number text list object value
termination_by value => value
decreasing_by
  · have smaller := List.sizeOf_lt_of_mem isElement
    simp only [Value.list.sizeOf_spec]
    omega
  · have smaller := List.sizeOf_lt_of_mem isField
    simp only [Value.object.sizeOf_spec, Prod.mk.sizeOf_spec] at smaller ⊢
    omega

/-- Written elements with commas between them spell the elements, whatever blanks are put in. -/
theorem spellsElements_written {write : Value → String} {element : Value} {elements : List Value}
    (spelled : ∀ value ∈ element :: elements, Spells value (write value).toList)
    {first : Bool} {separator between closing : List Char} (separates : Separates first separator)
    (areBlankBetween : AreBlank between) (areBlankClosing : AreBlank closing) :
    SpellsElements first (element :: elements)
      (separator ++ ((',' :: between).intercalate
        ((element :: elements).map fun value => (write value).toList) ++ closing)) := by
  induction elements generalizing element first separator with
  | nil =>
      have isSpelled := spelled element List.mem_cons_self
      simpa using SpellsElements.next separates isSpelled (.done areBlankClosing)
  | cons second elements ih =>
      have isSpelled := spelled element List.mem_cons_self
      have later := ih (fun value isThere => spelled value (List.mem_cons_of_mem _ isThere))
        (.comma .nil areBlankBetween)
      simpa using SpellsElements.next separates isSpelled later

/-- Written fields with commas between them spell the fields, whatever blanks are put in. -/
theorem spellsFields_written {write : Value → String} {field : String × Value}
    {fields : List (String × Value)}
    (spelled : ∀ other ∈ field :: fields, Spells other.2 (write other.2).toList)
    {first : Bool} {separator after between closing : List Char}
    (separates : Separates first separator) (areBlankAfter : AreBlank after)
    (areBlankBetween : AreBlank between) (areBlankClosing : AreBlank closing) :
    SpellsFields first (field :: fields)
      (separator ++ ((',' :: between).intercalate ((field :: fields).map fun other =>
        (quote other.1).toList ++ ':' :: (after ++ (write other.2).toList)) ++ closing)) := by
  induction fields generalizing field first separator with
  | nil =>
      have isSpelled := spelled field List.mem_cons_self
      simpa using SpellsFields.next field.1 separates .nil areBlankAfter isSpelled
        (.done areBlankClosing)
  | cons second fields ih =>
      have isSpelled := spelled field List.mem_cons_self
      have later := ih (fun other isThere => spelled other (List.mem_cons_of_mem _ isThere))
        (.comma .nil areBlankBetween)
      simpa using SpellsFields.next field.1 separates .nil areBlankAfter isSpelled later

namespace Value

theorem compactElements_eq_map (elements : List Value) :
    compactElements elements = elements.map compact := by
  induction elements with
  | nil => rfl
  | cons element elements ih => rw [compactElements, ih, List.map_cons]

theorem compactFields_eq_map (fields : List (String × Value)) :
    compactFields fields = fields.map fun field => quote field.1 ++ ":" ++ field.2.compact := by
  induction fields with
  | nil => rfl
  | cons field fields ih => rw [compactFields, ih, List.map_cons]

theorem prettyElements_eq_map (depth : Nat) (elements : List Value) :
    prettyElements depth elements = elements.map (pretty depth) := by
  induction elements with
  | nil => rfl
  | cons element elements ih => rw [prettyElements, ih, List.map_cons]

theorem prettyFields_eq_map (depth : Nat) (fields : List (String × Value)) :
    prettyFields depth fields =
      fields.map fun field => quote field.1 ++ ": " ++ field.2.pretty depth := by
  induction fields with
  | nil => rfl
  | cons field fields ih => rw [prettyFields, ih, List.map_cons]

theorem spells_compact (value : Value) : Spells value value.compact.toList := by
  induction value using deep_induction with
  | null => exact .null
  | bool truth => exact .bool truth
  | number value => exact .number value
  | text content => exact .text content
  | list elements ih =>
      cases elements with
      | nil => exact .list (.done .nil)
      | cons element elements =>
          have spelled := spellsElements_written ih (.start .nil) .nil .nil
          simpa [compact, compactElements_eq_map, Function.comp_def] using Spells.list spelled
  | object fields ih =>
      cases fields with
      | nil => exact .object (.done .nil)
      | cons field fields =>
          have spelled := spellsFields_written ih (.start .nil) .nil .nil .nil
          simpa [compact, compactFields_eq_map, Function.comp_def, -String.intercalate_cons_append]
            using Spells.object spelled

theorem areBlank_newline (depth : Nat) : AreBlank (newline depth).toList := by
  intro character isThere
  simp [newline] at isThere
  rcases isThere with rfl | ⟨_, rfl⟩
  · rfl
  · rfl

theorem spells_pretty (value : Value) (depth : Nat) : Spells value (value.pretty depth).toList := by
  induction value using deep_induction generalizing depth with
  | null => exact .null
  | bool truth => exact .bool truth
  | number value => exact .number value
  | text content => exact .text content
  | list elements ih =>
      cases elements with
      | nil => simpa [pretty, bracketed, prettyElements] using Spells.list (.done .nil)
      | cons element elements =>
          have spelled := spellsElements_written (fun value isThere => ih value isThere (depth + 1))
            (.start (areBlank_newline (depth + 1))) (areBlank_newline (depth + 1))
            (areBlank_newline depth)
          simpa [pretty, bracketed, prettyElements_eq_map, Function.comp_def] using
            Spells.list spelled
  | object fields ih =>
      cases fields with
      | nil => simpa [pretty, bracketed, prettyFields] using Spells.object (.done .nil)
      | cons field fields =>
          have areBlankAfter : AreBlank [' '] := by simp [AreBlank, Cursor.isBlank]
          have spelled := spellsFields_written (fun other isThere => ih other isThere (depth + 1))
            (.start (areBlank_newline (depth + 1))) areBlankAfter (areBlank_newline (depth + 1))
            (areBlank_newline depth)
          simpa [pretty, bracketed, prettyFields_eq_map, Function.comp_def,
            -String.intercalate_cons_append] using Spells.object spelled

end Value

end JavaFacts.Json
