import Mathlib.Data.List.Basic

set_option autoImplicit false

namespace Replay

variable {σ α : Type}

/-- What the entries of the log from `first` on make of a state, up to `last`. -/
def replay (apply : σ → α → σ) (log : List α) (first last : Nat) (start : σ) : σ :=
  ((log.take last).drop first).foldl apply start

variable {apply : σ → α → σ} {log : List α} {first last : Nat} {start : σ}

@[simp] theorem replay_self : replay apply log first first start = start := by
  have none : (log.take first).drop first = [] := by
    apply List.drop_eq_nil_of_le
    rw [List.length_take]
    exact Nat.min_le_left _ _
  rw [replay, none]
  rfl

theorem replay_next {entry : α} (found : log[last]? = some entry) (order : first ≤ last) :
    replay apply log first (last + 1) start = apply (replay apply log first last start) entry := by
  have bound : last < log.length := (List.getElem?_eq_some_iff.mp found).1
  have within : first ≤ (log.take last).length := by
    rw [List.length_take]
    omega
  rw [replay, replay, List.take_add_one, found, Option.toList_some,
    List.drop_append_of_le_length within, List.foldl_append]
  rfl

/-- The entries that come later change nothing. -/
theorem replay_append (more : List α) (bound : last ≤ log.length) :
    replay apply (log ++ more) first last start = replay apply log first last start := by
  rw [replay, List.take_append_of_le_length bound, replay]

theorem replay_all (whole : last = log.length) :
    replay apply log first last start = (log.drop first).foldl apply start := by
  rw [replay, whole, List.take_length]

end Replay
