import Lvos.Lib.Transition
import Mathlib.Data.List.Basic
import Mathlib.Data.List.Induction

set_option autoImplicit false

namespace Transition

variable {σ α : Type} {step : σ → α → Option σ}

theorem run_cons {state next : σ} {action : α} (taken : step state action = some next)
    (rest : List α) : run step state (action :: rest) = run step next rest := by
  simp only [run, taken]

theorem run_append (state : σ) (first second : List α) :
    run step state (first ++ second) =
      (run step state first).bind fun middle => run step middle second := by
  induction first generalizing state with
  | nil => rfl
  | cons action rest ih =>
      simp only [List.cons_append, run]
      cases step state action with
      | none => rfl
      | some next => exact ih next

theorem run_snoc {first last : σ} {actions : List α} {action : α}
    (reached : run step first (actions ++ [action]) = some last) :
    ∃ former, run step first actions = some former ∧ step former action = some last := by
  rw [run_append, Option.bind_eq_some_iff] at reached
  obtain ⟨former, before, taken⟩ := reached
  refine ⟨former, before, ?_⟩
  unfold run at taken
  cases found : step former action with
  | none => simp [found] at taken
  | some next =>
      simp only [found] at taken
      exact taken

/-- A run that takes `action` from `former`, and what it does then. -/
structure Passes (step : σ → α → Option σ) (first : σ) (before : List α) (former : σ)
    (action : α) (later : σ) (after : List α) (last : σ) : Prop where
  reached : run step first before = some former
  taken : step former action = some later
  onward : run step later after = some last

/-- What does not hold at first and does at last has a last step that brought it about, after
which it held throughout. -/
theorem run_cause {holds : σ → Prop} {first : σ} (lacks : ¬ holds first) :
    ∀ {actions : List α} {last : σ}, run step first actions = some last → holds last →
      ∃ before former action later after, actions = before ++ action :: after ∧
        Passes step first before former action later after last ∧
        ¬ holds former ∧ holds later ∧
        ∀ middle rest state, after = middle ++ rest → run step later middle = some state →
          holds state := by
  intro actions
  induction actions using List.reverseRecOn with
  | nil =>
      intro last reached has
      cases reached
      exact absurd has lacks
  | append_singleton done action ih =>
      intro last reached has
      obtain ⟨former, before, taken⟩ := run_snoc reached
      by_cases had : holds former
      · obtain ⟨opening, cause, deed, effect, after, rfl, passes, lacked, got, kept⟩ :=
          ih before had
        refine ⟨opening, cause, deed, effect, after ++ [action], by simp,
          ⟨passes.reached, passes.taken, ?_⟩, lacked, got, ?_⟩
        · rw [run_append, passes.onward, Option.bind_some, run_cons taken]
          rfl
        · intro middle rest state split passed
          rcases List.eq_nil_or_concat' rest with rfl | ⟨rest, final, rfl⟩
          · rw [List.append_nil] at split
            rw [← split, run_append, passes.onward, Option.bind_some, run_cons taken] at passed
            cases passed
            exact has
          · rw [← List.append_assoc] at split
            exact kept middle rest state (List.append_inj' split rfl).1 passed
      · refine ⟨done, former, action, last, [], rfl, ⟨before, taken, rfl⟩, had, has, ?_⟩
        intro middle rest state split passed
        obtain ⟨rfl, rfl⟩ := List.append_eq_nil_iff.mp split.symm
        cases passed
        exact has

end Transition
