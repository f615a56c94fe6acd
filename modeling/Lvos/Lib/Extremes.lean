import Mathlib.Order.MinMax

set_option autoImplicit false

namespace Extremes

/-! The least and the greatest of a list, whatever its order and its repetitions. -/

variable {α : Type} [LinearOrder α] {first second : List α}

theorem max?_congr (same : ∀ value, value ∈ first ↔ value ∈ second) :
    first.max? = second.max? := by
  ext value
  rw [List.max?_eq_some_iff, List.max?_eq_some_iff, same]
  simp only [same]

theorem min?_congr (same : ∀ value, value ∈ first ↔ value ∈ second) :
    first.min? = second.min? := by
  ext value
  rw [List.min?_eq_some_iff, List.min?_eq_some_iff, same]
  simp only [same]

theorem max?_concat (values : List α) (last : α) :
    (values ++ [last]).max? = some ((values.max?.map (fun value => max value last)).getD last) := by
  cases values with
  | nil => rfl
  | cons head rest =>
      rw [List.cons_append, List.max?_cons', List.max?_cons', List.foldl_append]
      rfl

theorem min?_concat (values : List α) (last : α) :
    (values ++ [last]).min? = some ((values.min?.map (fun value => min value last)).getD last) := by
  cases values with
  | nil => rfl
  | cons head rest =>
      rw [List.cons_append, List.min?_cons', List.min?_cons', List.foldl_append]
      rfl

end Extremes
