import JavaFacts.Proofs.Readers

/-!
# What can be read

Whatever text a reader is given, what it reads has the properties of its type: a natural number has
64 bits, and what holds of every element, entry or field as it is read holds of the whole list, map
or record. The text may be spelled in any way that is accepted, and a record may also be written as
a list of its fields.
-/

namespace JavaFacts.Json

/-- Whatever a reader reads has a property. -/
def Yields {α : Type} (reader : Reader α) (property : α → Prop) : Prop :=
  ∀ ⦃limit : Nat⦄ ⦃cursor later : Cursor⦄ ⦃value : α⦄,
    reader limit cursor = .ok (value, later) → property value

variable {α β : Type}

namespace Yields

theorem pure {property : α → Prop} {value : α} (holds : property value) :
    Yields (Pure.pure value) property := by
  intro limit cursor later result isRead
  cases isRead
  exact holds

theorem anything (reader : Reader α) : Yields reader fun _ => True :=
  fun _ _ _ _ _ => trivial

theorem bind {reader : Reader α} {next : α → Reader β} {property : α → Prop}
    {result : β → Prop} (first : Yields reader property)
    (second : ∀ value, property value → Yields (next value) result) :
    Yields (reader >>= next) result := by
  intro limit cursor later value isRead
  change (reader limit cursor >>= fun found => next found.1 limit found.2) = _ at isRead
  rcases isFound : reader limit cursor with _ | ⟨found, between⟩
  · rw [isFound] at isRead
    cases isRead
  · rw [isFound] at isRead
    exact second found (first isFound) isRead

/-- The value of a first step does not matter. -/
theorem after {reader : Reader α} {next : α → Reader β} {property : β → Prop}
    (second : ∀ value, Yields (next value) property) : Yields (reader >>= next) property :=
  (anything reader).bind fun value _ => second value

theorem fail (property : α → Prop) (problem : Problem) : Yields (Json.fail problem) property := by
  intro limit cursor later value isRead
  cases isRead

theorem failNext (property : α → Prop) (problem : Problem) :
    Yields (Json.failNext problem) property := by
  intro limit cursor later value isRead
  cases isRead

end Yields

theorem yields_refuse (property : α → Prop) (wanted : String) :
    Yields (refuse wanted) property := by
  refine .after fun next => ?_
  split
  · exact .after fun _ => .after fun _ => .fail property _
  · exact .after fun _ => .after fun _ => .fail property _
  · exact .after fun _ => .after fun _ => .fail property _
  · exact .after fun _ => .after fun _ => .fail property _
  · exact .fail property _
  · exact .fail property _
  · split
    · exact .after fun _ => .fail property _
    · exact .failNext property _
  · exact .failNext property _

/-! ## Numbers -/

theorem absorb_le {significand : Nat} (isSmall : significand ≤ greatestSignificand)
    (digits : List Char) (taken : Nat) :
    (absorb significand digits taken).1 ≤ greatestSignificand := by
  induction digits generalizing significand taken with
  | nil => exact isSmall
  | cons digit digits ih =>
      rw [absorb]
      split
      · exact isSmall
      · next fits => exact ih (Nat.not_lt.mp fits) _

/-- A number that is natural has 64 bits. -/
def Number.IsSmall : Number → Prop
  | natural value => value ≤ greatestSignificand
  | _ => True

theorem isSmall_ofInteger (positive : Bool) {significand : Nat}
    (isSmall : significand ≤ greatestSignificand) : (ofInteger positive significand).IsSmall := by
  rw [ofInteger]
  split
  · exact isSmall
  · split
    · trivial
    · trivial

theorem yields_readAfterInteger (positive : Bool) {significand : Nat}
    (isSmall : significand ≤ greatestSignificand) (dropped : Nat) :
    Yields (readAfterInteger positive significand dropped) Number.IsSmall := by
  refine .after fun next => ?_
  split
  · exact .after fun _ => .pure trivial
  · exact .after fun _ => .pure trivial
  · exact .after fun _ => .pure trivial
  · split
    · exact .pure (isSmall_ofInteger positive isSmall)
    · exact .after fun _ => .pure trivial

theorem yields_readUnsigned (positive : Bool) : Yields (readUnsigned positive) Number.IsSmall := by
  refine .after fun next => ?_
  split
  · exact .fail _ _
  · refine .after fun _ => .after fun following => ?_
    split
    · split
      · exact .failNext _ _
      · exact yields_readAfterInteger positive (Nat.zero_le _) 0
    · exact yields_readAfterInteger positive (Nat.zero_le _) 0
  · split
    · refine .after fun digits => ?_
      exact yields_readAfterInteger positive (absorb_le (Nat.zero_le _) digits 0) _
    · exact .failNext _ _

theorem yields_readNumber : Yields readNumber Number.IsSmall := by
  refine .after fun next => ?_
  split
  · exact .after fun _ => yields_readUnsigned false
  · exact yields_readUnsigned true

theorem yields_readNatural : Yields readNatural (· ≤ greatestSignificand) := by
  refine .after fun next => ?_
  split
  · exact .failNext _ _
  · split
    · refine yields_readNumber.bind fun number isSmall => ?_
      cases number with
      | natural value => exact .pure isSmall
      | negative value => exact .fail _ _
      | float value => exact .fail _ _
    · exact yields_refuse _ _

/-! ## Lists and maps -/

theorem yields_readElements {element : Reader α} {property : α → Prop}
    (yields : Yields element property) (fuel : Nat) (first : Bool) {collected : Array α}
    (holds : ∀ item ∈ collected, property item) :
    Yields (readElements element fuel first collected) (∀ item ∈ ·, property item) := by
  induction fuel generalizing first collected with
  | zero => exact .failNext _ _
  | succ fuel ih =>
      refine .after fun follows => ?_
      split
      · refine yields.bind fun item isItem => ih false ?_
        intro other isThere
        rcases Array.mem_push.mp isThere with isOld | rfl
        · exact holds other isOld
        · exact isItem
      · exact .pure holds

theorem yields_readList {element : Reader α} {property : α → Prop}
    (yields : Yields element property) :
    Yields (readList element) (∀ item ∈ ·, property item) := by
  refine .after fun next => ?_
  split
  · exact .failNext _ _
  · refine .after fun _ => .after fun limit => ?_
    refine (yields_readElements yields limit true (by simp)).bind fun items hold => ?_
    exact .after fun _ => .pure hold
  · exact yields_refuse _ _

theorem yields_readEntries {σ : Type} {insert : σ → String → α → σ} {invariant : σ → Prop}
    (keeps : ∀ collected key entry, invariant collected → invariant (insert collected key entry))
    (value : Reader α) (fuel : Nat) (first : Bool) {collected : σ} (holds : invariant collected) :
    Yields (readEntries insert value fuel first collected) invariant := by
  induction fuel generalizing first collected with
  | zero => exact .failNext _ _
  | succ fuel ih =>
      refine .after fun follows => ?_
      split
      · refine .after fun _ => .after fun key => .after fun _ => .after fun entry => ?_
        exact ih false (keeps collected key entry holds)
      · exact .pure holds

theorem yields_readMap {σ : Type} {empty : σ} {insert : σ → String → α → σ}
    {invariant : σ → Prop} (holds : invariant empty)
    (keeps : ∀ collected key entry, invariant collected → invariant (insert collected key entry))
    (value : Reader α) : Yields (readMap empty insert value) invariant := by
  refine .after fun next => ?_
  split
  · exact .failNext _ _
  · refine .after fun _ => .after fun limit => ?_
    refine (yields_readEntries keeps value limit true holds).bind fun collected isKept => ?_
    exact .after fun _ => .pure isKept
  · exact yields_refuse _ _

/-! ## Records -/

section Records

variable {Draft Record : Type} {shape : Shape Draft Record} {invariant : Draft → Prop}
  {property : Record → Prop}

/-- What holds of a record if one was made. -/
def HoldsIfMade (property : Record → Prop) : Except Problem Record → Prop
  | .ok record => property record
  | .error _ => True

theorem holdsIfMade_record
    (finishes : ∀ draft record, invariant draft → shape.finish draft = .ok record → property record)
    {draft : Draft} (holds : invariant draft) : HoldsIfMade property (shape.record draft) := by
  rw [Shape.record]
  split
  · next isRecord => exact finishes draft _ holds isRecord
  · trivial

theorem yields_readObjectFields
    (keeps : ∀ field ∈ shape.fields, ∀ draft, invariant draft → Yields (field.read draft) invariant)
    (finishes : ∀ draft record, invariant draft → shape.finish draft = .ok record → property record)
    (fuel : Nat) (first : Bool) {draft : Draft} (holds : invariant draft) :
    Yields (shape.readObjectFields fuel first draft) (HoldsIfMade property) := by
  induction fuel generalizing first draft with
  | zero => exact .failNext _ _
  | succ fuel ih =>
      refine .after fun follows => ?_
      split
      · refine .after fun _ => .after fun key => ?_
        split
        · next field isField =>
          split
          · exact .pure trivial
          · refine .after fun _ => ?_
            have isThere := List.mem_of_find?_eq_some isField
            exact (keeps field isThere draft holds).bind fun next isKept => ih false isKept
        · exact .after fun _ => .after fun _ => ih false holds
      · exact .pure (holdsIfMade_record finishes holds)

theorem yields_readListFields
    (finishes : ∀ draft record, invariant draft → shape.finish draft = .ok record → property record)
    {fields : List (Field Draft)}
    (keeps : ∀ field ∈ fields, ∀ draft, invariant draft → Yields (field.read draft) invariant)
    (index : Nat) {draft : Draft} (holds : invariant draft) :
    Yields (shape.readListFields fields index draft) (HoldsIfMade property) := by
  induction fields generalizing index draft with
  | nil => exact .pure (holdsIfMade_record finishes holds)
  | cons field fields ih =>
      have keepsLater : ∀ other ∈ fields, ∀ draft, invariant draft →
          Yields (other.read draft) invariant :=
        fun other isThere => keeps other (List.mem_cons_of_mem field isThere)
      refine .after fun follows => ?_
      split
      · refine (keeps field List.mem_cons_self draft holds).bind fun next isKept => ?_
        exact ih keepsLater (index + 1) isKept
      · split
        · exact ih keepsLater (index + 1) holds
        · exact .pure trivial

/-- What every field keeps of the draft, and gives the record a property, holds of what is read. -/
theorem yields_readRecord (invariant : Draft → Prop) (starts : invariant shape.start)
    (keeps : ∀ field ∈ shape.fields, ∀ draft, invariant draft → Yields (field.read draft) invariant)
    (finishes : ∀ draft record, invariant draft → shape.finish draft = .ok record →
      property record) :
    Yields (readRecord shape) property := by
  refine .after fun next => ?_
  split
  · exact .failNext _ _
  · refine .after fun _ => ?_
    refine (yields_readListFields finishes keeps 0 starts).bind fun made isMade => ?_
    cases made with
    | ok record => exact .after fun _ => .pure isMade
    | error problem => exact .after fun _ => .fail _ _
  · refine .after fun _ => .after fun limit => ?_
    refine (yields_readObjectFields keeps finishes limit true starts).bind fun made isMade => ?_
    cases made with
    | ok record => exact .after fun _ => .pure isMade
    | error problem => exact .after fun _ => .fail _ _
  · exact yields_refuse _ _

end Records

/-! ## Whole texts -/

theorem holds_of_readAll {reader : Reader α} {property : α → Prop}
    (yields : Yields reader property) {text : String} {value : α}
    (isRead : readAll reader text = .ok value) : property value := by
  have yieldsWhole : Yields (readToEnd reader) property := by
    refine yields.bind fun value holds => .after fun next => ?_
    cases next with
    | none => exact .pure holds
    | some character => exact .failNext _ _
  rw [readAll_eq_map] at isRead
  rcases isFound : readToEnd reader (text.length + 1) (Cursor.ofText text) with _ | ⟨found, later⟩
  · rw [isFound] at isRead
    cases isRead
  · rw [isFound] at isRead
    cases isRead
    exact yieldsWhole isFound

end JavaFacts.Json
