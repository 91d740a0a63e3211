/-!
# Stacks

A tree is searched with a stack of the trees that are still to be looked at. In every step the
children of the first tree take its place, or some of them. The size of the stack becomes smaller by
that, so that the search comes to an end.
-/

namespace JavaFacts

theorem sizeOf_append {α : Type} [SizeOf α] (left right : List α) :
    sizeOf (left ++ right) + 1 = sizeOf left + sizeOf right := by
  induction left with
  | nil => simp; omega
  | cons first rest ih => simp only [List.cons_append, List.cons.sizeOf_spec]; omega

theorem sizeOf_filter_le {α : Type} [SizeOf α] (condition : α → Bool) (list : List α) :
    sizeOf (list.filter condition) ≤ sizeOf list := by
  induction list with
  | nil => simp
  | cons first rest ih =>
    rw [List.filter_cons]
    split
    · simp only [List.cons.sizeOf_spec]; omega
    · simp only [List.cons.sizeOf_spec]; omega

end JavaFacts
