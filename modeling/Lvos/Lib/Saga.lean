import Mathlib.Data.List.Forall2
import Mathlib.Data.List.TakeWhile

set_option autoImplicit false

namespace Saga

/-! A step made on one item after the other, and undone on the items before a failure. -/

variable {σ ε : Type}

/-- The steps in order. When one fails, the items before it are compensated, the last of them
first, whatever the compensation answers. -/
def attempt (forward backward : σ → σ × Except ε Unit) : List σ → List σ × Except ε Unit
  | [] => ([], .ok ())
  | item :: rest =>
      match forward item with
      | (left, .error reason) => (left :: rest, .error reason)
      | (changed, .ok ()) =>
          match attempt forward backward rest with
          | (done, .ok ()) => (changed :: done, .ok ())
          | (undone, .error reason) => ((backward changed).1 :: undone, .error reason)

def accepts (step : σ → σ × Except ε Unit) (item : σ) : Bool := (step item).2.toBool

/-- The items before the first that refuses the step. -/
def reached (step : σ → σ × Except ε Unit) (items : List σ) : List σ :=
  items.takeWhile (accepts step)

variable {forward backward : σ → σ × Except ε Unit} {items after : List σ} {reason : ε}

theorem attempt_ok (success : attempt forward backward items = (after, .ok ())) :
    reached forward items = items ∧ after = items.map (fun item => (forward item).1) := by
  induction items generalizing after with
  | nil =>
      cases success
      exact ⟨rfl, rfl⟩
  | cons item rest ih =>
      unfold attempt at success
      split at success
      · cases success
      · rename_i changed moved
        split at success
        · rename_i done later
          cases success
          obtain ⟨whole, mapped⟩ := ih later
          refine ⟨?_, ?_⟩
          · rw [reached, List.takeWhile_cons_of_pos (by simp [accepts, moved, Except.toBool])]
            exact congrArg _ whole
          · rw [List.map_cons, moved, mapped]
        · cases success

theorem accepted_of_reached (whole : reached forward items = items) :
    ∀ item ∈ items, accepts forward item = true := by
  intro item member
  rw [← whole, reached] at member
  exact List.mem_takeWhile_imp member

theorem attempt_of_accepts (accepted : ∀ item ∈ items, accepts forward item = true) :
    attempt forward backward items = (items.map (fun item => (forward item).1), .ok ()) := by
  induction items with
  | nil => rfl
  | cons item rest ih =>
      have later := ih (fun other member => accepted other (List.mem_cons_of_mem item member))
      have head := accepted item List.mem_cons_self
      unfold attempt
      cases moved : forward item with
      | mk changed answer =>
          cases answer with
          | error reason => simp [accepts, moved, Except.toBool] at head
          | ok done => simp only [later, List.map_cons, moved]

variable {same : σ → σ → Prop} {restorable : σ → Prop}

/-- After a failure the items are as they were when the compensation restores each of those
that were changed. -/
theorem attempt_restores
    (refused : ∀ item left reason, forward item = (left, .error reason) → same item left)
    (undone : ∀ item, accepts forward item = true → accepts backward (forward item).1 = true →
      (same item (backward (forward item).1).1 ↔ restorable item))
    (refl : ∀ item, same item item)
    (failed : attempt forward backward items = (after, .error reason))
    (compensated : ∀ item ∈ reached forward items, accepts backward (forward item).1 = true) :
    List.Forall₂ same items after ↔ ∀ item ∈ reached forward items, restorable item := by
  induction items generalizing after with
  | nil => cases failed
  | cons item rest ih =>
      unfold attempt at failed
      split at failed
      · rename_i left why stopped
        cases failed
        have none : reached forward (item :: rest) = [] := by
          rw [reached, List.takeWhile_cons_of_neg (by simp [accepts, stopped, Except.toBool])]
        rw [none]
        simp only [List.not_mem_nil, false_implies, implies_true, iff_true]
        exact .cons (refused item left _ stopped) (List.forall₂_same.mpr (fun other _ => refl other))
      · rename_i changed moved
        split at failed
        · cases failed
        · rename_i later why stopped
          cases failed
          have accepted : accepts forward item = true := by simp [accepts, moved, Except.toBool]
          have more : reached forward (item :: rest) = item :: reached forward rest := by
            rw [reached, List.takeWhile_cons_of_pos accepted]
            rfl
          rw [more] at compensated ⊢
          have head := undone item accepted (compensated item List.mem_cons_self)
          rw [moved] at head
          rw [List.forall₂_cons, head, ih stopped (fun other member =>
            compensated other (List.mem_cons_of_mem item member)), List.forall_mem_cons]

end Saga
