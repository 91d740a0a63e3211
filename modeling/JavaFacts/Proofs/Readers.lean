import JavaFacts.Json.Record

/-!
# What readers give and what they leave

A reader is described by the text before it, the value that it gives and the text that it leaves.
Where the text begins does not matter to it, since places are only needed for faults. Such facts
about readers are composed along their steps, so that later proofs go through a reader step by step
and never meet a cursor.
-/

namespace JavaFacts.Json

/-- A reader reads a value and leaves the rest of the text, wherever the text begins. -/
def Reads {α : Type} (reader : Reader α) (limit : Nat) (text : List Char) (value : α)
    (rest : List Char) : Prop :=
  ∀ position, ∃ later, reader limit ⟨text, position⟩ = .ok (value, ⟨rest, later⟩)

variable {α β : Type} {limit : Nat} {text middle rest : List Char}

namespace Reads

theorem pure (value : α) : Reads (Pure.pure value) limit text value text :=
  fun position => ⟨position, rfl⟩

theorem bind {reader : Reader α} {next : α → Reader β} {value : α} {result : β}
    (reads : Reads reader limit text value middle)
    (readsNext : Reads (next value) limit middle result rest) :
    Reads (reader >>= next) limit text result rest := by
  intro position
  rcases reads position with ⟨between, isRead⟩
  rcases readsNext between with ⟨later, isReadNext⟩
  refine ⟨later, ?_⟩
  change (reader limit ⟨text, position⟩ >>= fun result => next result.1 limit result.2) = _
  rw [isRead]
  exact isReadNext

theorem map {reader : Reader α} {value : α} (reads : Reads reader limit text value rest)
    (change : α → β) : Reads (do return change (← reader)) limit text (change value) rest :=
  reads.bind (.pure _)

end Reads

/-! ## Steps of readers -/

theorem reads_limit : Reads (read : Reader Nat) limit text limit text :=
  fun position => ⟨position, rfl⟩

theorem reads_get {next : Cursor → Reader α} {value : α}
    (reads : ∀ position, ∃ later,
      next ⟨text, position⟩ limit ⟨text, position⟩ = .ok (value, ⟨rest, later⟩)) :
    Reads (get >>= next) limit text value rest :=
  reads

theorem reads_peek : Reads peek limit text text.head? text :=
  fun position => ⟨position, rfl⟩

theorem reads_advance {first : Char} : Reads advance limit (first :: text) () text :=
  fun position => ⟨position.after first, rfl⟩

theorem rest_skipWhile (property : Char → Bool) (text : List Char) (position : Position) :
    (Cursor.skipWhile property text position).rest = text.dropWhile property := by
  induction text generalizing position with
  | nil => rfl
  | cons first text ih =>
      rw [Cursor.skipWhile, List.dropWhile_cons]
      split
      · exact ih _
      · rfl

theorem reads_readDigits :
    Reads readDigits limit text (text.takeWhile Char.isDigit) (text.dropWhile Char.isDigit) := by
  intro position
  refine ⟨(Cursor.skipWhile Char.isDigit text position).position, ?_⟩
  rw [← rest_skipWhile Char.isDigit text position]
  rfl

/-! ## Blanks -/

/-- A text of nothing but blanks. -/
def AreBlank (text : List Char) : Prop := ∀ character ∈ text, Cursor.isBlank character

theorem AreBlank.nil : AreBlank [] := by
  intro character isThere
  cases isThere

theorem AreBlank.dropWhile_append (areBlank : AreBlank text) (rest : List Char) :
    (text ++ rest).dropWhile Cursor.isBlank = rest.dropWhile Cursor.isBlank :=
  List.dropWhile_append_of_pos areBlank

theorem reads_peekPastBlanks :
    Reads peekPastBlanks limit text (text.dropWhile Cursor.isBlank).head?
      (text.dropWhile Cursor.isBlank) := by
  intro position
  refine ⟨(Cursor.skipWhile Cursor.isBlank text position).position, ?_⟩
  rw [← rest_skipWhile Cursor.isBlank text position]
  rfl

/-- Past blanks, the first character that is none can be seen. -/
theorem reads_pastBlanks {blanks : List Char} (areBlank : AreBlank blanks) {first : Char}
    (notBlank : Cursor.isBlank first = false) :
    Reads peekPastBlanks limit (blanks ++ first :: rest) (some first) (first :: rest) := by
  have isRest : (blanks ++ first :: rest).dropWhile Cursor.isBlank = first :: rest := by
    rw [areBlank.dropWhile_append, List.dropWhile_cons_of_neg (by simp [notBlank])]
  have reads : Reads peekPastBlanks limit (blanks ++ first :: rest) _ _ := reads_peekPastBlanks
  rwa [isRest] at reads

/-! ## Whole texts -/

/-- Reads a value after which nothing but blanks follows. -/
def readToEnd (reader : Reader α) : Reader α := do
  let value ← reader
  match ← peekPastBlanks with
  | none => return value
  | some _ => failNext .trailingCharacters

theorem readAll_eq_map (reader : Reader α) (text : String) :
    readAll reader text =
      (readToEnd reader (text.length + 1) (Cursor.ofText text)).map Prod.fst := by
  change (readToEnd reader (text.length + 1) (Cursor.ofText text) >>= fun found =>
    pure found.1) = _
  rcases readToEnd reader (text.length + 1) (Cursor.ofText text) with _ | found
  · rfl
  · rfl

theorem readAll_of_reads {reader : Reader α} {text : String} {value : α} {rest : List Char}
    (reads : Reads reader (text.length + 1) text.toList value rest) (areBlank : AreBlank rest) :
    readAll reader text = .ok value := by
  have isOver : rest.dropWhile Cursor.isBlank = [] := by
    simpa using areBlank.dropWhile_append []
  have readsEnd : Reads peekPastBlanks (text.length + 1) rest _ _ := reads_peekPastBlanks
  rw [isOver] at readsEnd
  have readsWhole : Reads (readToEnd reader) (text.length + 1) text.toList value [] :=
    reads.bind (readsEnd.bind (.pure value))
  rcases readsWhole ⟨1, 0⟩ with ⟨later, isRead⟩
  rw [readAll_eq_map, Cursor.ofText, isRead]
  rfl

end JavaFacts.Json
