import Mathlib.Data.List.Forall2

/-!
# One after another

Several computations of the project take the elements of a list one after another and give up at the
first one that fails. Either all elements are fine, or one of them is reached over fine ones only
and is not; a map that can fail has its results in the first case and fails like that element in the
second.
-/

namespace JavaFacts.InOrder

variable {α β ε : Type}

/-- An element stands in a list, and all elements before it are fine. -/
def Reached (fine : α → Prop) (items : List α) (item : α) : Prop :=
  ∃ before after, items = before ++ item :: after ∧ ∀ earlier ∈ before, fine earlier

theorem Reached.mem {fine : α → Prop} {items : List α} {item : α}
    (reached : Reached fine items item) : item ∈ items := by
  rcases reached with ⟨before, after, rfl, _⟩
  simp

theorem Reached.head (fine : α → Prop) (item : α) (rest : List α) :
    Reached fine (item :: rest) item :=
  ⟨[], rest, rfl, by simp⟩

theorem Reached.cons {fine : α → Prop} {first item : α} {rest : List α} (isFine : fine first)
    (reached : Reached fine rest item) : Reached fine (first :: rest) item := by
  rcases reached with ⟨before, after, rfl, allFine⟩
  refine ⟨first :: before, after, rfl, ?_⟩
  intro earlier earlierMem
  rcases List.mem_cons.mp earlierMem with rfl | later
  · exact isFine
  · exact allFine earlier later

theorem Reached.imp {fine other : α → Prop} {items : List α} {item : α}
    (implies : ∀ item, fine item → other item) (reached : Reached fine items item) :
    Reached other items item := by
  rcases reached with ⟨before, after, split, allFine⟩
  refine ⟨before, after, split, ?_⟩
  intro earlier earlierMem
  exact implies earlier (allFine earlier earlierMem)

/-- Beyond a first element that is fine, what is reached is reached in the rest. -/
theorem Reached.tail {fine : α → Prop} {first item : α} {rest : List α}
    (reached : Reached fine (first :: rest) item) (notFine : ¬fine item) (isFine : fine first) :
    Reached fine rest item := by
  rcases reached with ⟨before, after, split, allFine⟩
  rcases before with _ | ⟨head, before⟩
  · simp only [List.nil_append, List.cons.injEq] at split
    rcases split with ⟨rfl, _⟩
    exact absurd isFine notFine
  · simp only [List.cons_append, List.cons.injEq] at split
    exact ⟨before, after, split.2, fun earlier earlierMem => allFine earlier (by simp [earlierMem])⟩

theorem Reached.eq_head {fine : α → Prop} {first item : α} {rest : List α}
    (reached : Reached fine (first :: rest) item) (notFine : ¬fine first) : item = first := by
  rcases reached with ⟨before, after, split, allFine⟩
  rcases before with _ | ⟨head, before⟩
  · simp only [List.nil_append, List.cons.injEq] at split
    exact split.1.symm
  · simp only [List.cons_append, List.cons.injEq] at split
    rcases split with ⟨rfl, _⟩
    exact absurd (allFine first (by simp)) notFine

theorem all_or_reached (fine : α → Prop) (items : List α) :
    (∀ item ∈ items, fine item) ∨ ∃ item, Reached fine items item ∧ ¬fine item := by
  induction items with
  | nil => exact Or.inl (by simp)
  | cons first rest ih =>
      by_cases isFine : fine first
      · rcases ih with all | ⟨item, reached, notFine⟩
        · left
          intro item itemMem
          rcases List.mem_cons.mp itemMem with rfl | later
          · exact isFine
          · exact all item later
        · exact Or.inr ⟨item, reached.cons isFine, notFine⟩
      · exact Or.inr ⟨first, Reached.head fine first rest, isFine⟩

/-! ## Maps that can fail -/

/-- A computation has a result. -/
def Succeeds (attempt : Except ε β) : Prop := ∃ result, attempt = .ok result

instance (attempt : Except ε β) : Decidable (Succeeds attempt) :=
  match attempt with
  | .ok result => isTrue ⟨result, rfl⟩
  | .error _ => isFalse nofun

@[simp]
theorem toOption_ok (result : β) : (Except.ok result : Except ε β).toOption = some result := rfl

theorem toOption_eq_some_iff {attempt : Except ε β} {result : β} :
    attempt.toOption = some result ↔ attempt = .ok result := by
  cases attempt <;> simp [Except.toOption]

theorem succeeds_iff_isSome {attempt : Except ε β} :
    Succeeds attempt ↔ attempt.toOption.isSome := by
  simp only [Succeeds, Option.isSome_iff_exists, toOption_eq_some_iff]

theorem not_succeeds_iff {attempt : Except ε β} :
    ¬ Succeeds attempt ↔ ∃ error, attempt = .error error := by
  cases attempt <;> simp [Succeeds]

theorem bind_eq_ok_iff {attempt : Except ε α} {next : α → Except ε β} {result : β} :
    attempt >>= next = .ok result ↔ ∃ value, attempt = .ok value ∧ next value = .ok result := by
  cases attempt with
  | error error =>
      constructor
      · intro impossible
        cases impossible
      · rintro ⟨value, impossible, _⟩
        cases impossible
  | ok value =>
      constructor
      · intro isOk
        exact ⟨value, rfl, isOk⟩
      · rintro ⟨_, ⟨⟩, isOk⟩
        exact isOk

theorem mapM_cons_ok {attempt : α → Except ε β} {first : α} {rest : List α} {result : β}
    (isOk : attempt first = .ok result) :
    (first :: rest).mapM attempt = (rest.mapM attempt).map (result :: ·) := by
  rw [List.mapM_cons, isOk]
  cases rest.mapM attempt <;> rfl

theorem mapM_cons_error {attempt : α → Except ε β} {first : α} {rest : List α} {error : ε}
    (isError : attempt first = .error error) : (first :: rest).mapM attempt = .error error := by
  rw [List.mapM_cons, isError]
  rfl

theorem mapM_eq_ok_map {attempt : α → Except ε β} {result : α → β} {items : List α}
    (all : ∀ item ∈ items, attempt item = .ok (result item)) :
    items.mapM attempt = .ok (items.map result) := by
  induction items with
  | nil => rfl
  | cons first rest ih =>
      rw [mapM_cons_ok (all first (by simp)), ih fun item itemMem => all item (by simp [itemMem])]
      rfl

theorem mapM_congr {γ : Type} {attempt : α → Except ε γ} {otherAttempt : β → Except ε γ}
    {items : List α} {others : List β}
    (alike : List.Forall₂ (fun item other => attempt item = otherAttempt other) items others) :
    items.mapM attempt = others.mapM otherAttempt := by
  induction alike with
  | nil => rfl
  | cons isSame _ ih => rw [List.mapM_cons, List.mapM_cons, isSame, ih]

theorem mapM_map_congr {γ : Type} {change : α → β} {attempt : β → Except ε γ}
    {original : α → Except ε γ} {items : List α}
    (same : ∀ item ∈ items, attempt (change item) = original item) :
    (items.map change).mapM attempt = items.mapM original :=
  mapM_congr (List.forall₂_map_left_iff.mpr (List.forall₂_same.mpr same))

theorem mapM_eq_ok {attempt : α → Except ε β} {items : List α}
    (all : ∀ item ∈ items, Succeeds (attempt item)) :
    items.mapM attempt = .ok (items.filterMap fun item => (attempt item).toOption) := by
  induction items with
  | nil => rfl
  | cons first rest ih =>
      rcases all first (by simp) with ⟨result, isOk⟩
      rw [mapM_cons_ok isOk, ih fun item itemMem => all item (by simp [itemMem]),
        List.filterMap_cons, isOk]
      rfl

theorem mapM_eq_error {attempt : α → Except ε β} {items : List α} {item : α} {error : ε}
    (reached : Reached (fun item => Succeeds (attempt item)) items item)
    (isError : attempt item = .error error) : items.mapM attempt = .error error := by
  rcases reached with ⟨before, after, rfl, allFine⟩
  induction before with
  | nil => exact mapM_cons_error isError
  | cons first before ih =>
      rcases allFine first (by simp) with ⟨result, isOk⟩
      rw [List.cons_append, mapM_cons_ok isOk,
        ih fun earlier earlierMem => allFine earlier (by simp [earlierMem])]
      rfl

theorem mapM_eq_ok_iff {attempt : α → Except ε β} {items : List α} {results : List β} :
    items.mapM attempt = .ok results ↔
      List.Forall₂ (fun item result => attempt item = .ok result) items results := by
  induction items generalizing results with
  | nil => cases results <;> simp [pure, Except.pure]
  | cons first rest ih =>
      rcases isFirst : attempt first with error | result
      · rw [mapM_cons_error isFirst]
        constructor
        · intro impossible
          cases impossible
        · intro related
          rcases related with _ | ⟨isOk, _⟩
          rw [isFirst] at isOk
          cases isOk
      · rw [mapM_cons_ok isFirst]
        constructor
        · intro isOk
          rcases isRest : rest.mapM attempt with error | later
          · rw [isRest] at isOk
            cases isOk
          · rw [isRest] at isOk
            cases isOk
            exact .cons isFirst (ih.mp isRest)
        · intro related
          rcases related with _ | ⟨isOk, later⟩
          rw [isFirst] at isOk
          cases isOk
          rw [ih.mpr later]
          rfl

theorem succeeds_mapM_iff {attempt : α → Except ε β} {items : List α} :
    Succeeds (items.mapM attempt) ↔ ∀ item ∈ items, Succeeds (attempt item) := by
  constructor
  · rintro ⟨results, isOk⟩
    have related := mapM_eq_ok_iff.mp isOk
    clear isOk
    induction related with
    | nil => simp
    | cons isFirst _ ih => exact List.forall_mem_cons.mpr ⟨⟨_, isFirst⟩, ih⟩
  · intro all
    exact ⟨_, mapM_eq_ok all⟩

theorem forall₂_imp {relation other : α → β → Prop} {items : List α} {results : List β}
    (implies : ∀ item ∈ items, ∀ result, relation item result → other item result)
    (related : List.Forall₂ relation items results) : List.Forall₂ other items results := by
  induction related with
  | nil => exact .nil
  | cons first _ ih =>
      refine .cons (implies _ (by simp) _ first) (ih ?_)
      intro item itemMem
      exact implies item (by simp [itemMem])

theorem exists_of_mem_right {relation : α → β → Prop} {items : List α} {results : List β}
    (related : List.Forall₂ relation items results) {result : β} (isResult : result ∈ results) :
    ∃ item ∈ items, relation item result := by
  induction related with
  | nil => cases isResult
  | @cons item first items results isRelated _ ih =>
      rcases List.mem_cons.mp isResult with rfl | isLater
      · exact ⟨item, by simp, isRelated⟩
      · rcases ih isLater with ⟨other, otherMem, otherRelated⟩
        exact ⟨other, by simp [otherMem], otherRelated⟩

theorem flatMap_perm_of_forall₂ {γ : Type} {ofItem : α → List γ} {ofResult : β → List γ}
    {items : List α} {results : List β}
    (related : List.Forall₂ (fun item result => (ofResult result).Perm (ofItem item)) items
      results) :
    (results.flatMap ofResult).Perm (items.flatMap ofItem) := by
  induction related with
  | nil => exact .refl _
  | cons first _ ih =>
      rw [List.flatMap_cons, List.flatMap_cons]
      exact first.append ih

end JavaFacts.InOrder
