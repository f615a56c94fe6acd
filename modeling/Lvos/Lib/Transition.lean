import Mathlib.Logic.Basic

set_option autoImplicit false

namespace Transition

variable {σ α : Type}

/-- Replays actions from a state; `none` when one of them is not enabled. -/
def run (step : σ → α → Option σ) : σ → List α → Option σ
  | state, [] => some state
  | state, action :: rest =>
      match step state action with
      | none => none
      | some next => run step next rest

/-- Every step of the run meets `condition` in the state it is taken from. -/
def Meets (step : σ → α → Option σ) (condition : σ → α → Prop) : σ → List α → Prop
  | _, [] => True
  | state, action :: rest =>
      condition state action ∧
        match step state action with
        | none => True
        | some next => Meets step condition next rest

instance Meets.decidable (step : σ → α → Option σ) (condition : σ → α → Prop)
    [∀ state action, Decidable (condition state action)] :
    ∀ state actions, Decidable (Meets step condition state actions)
  | _, [] => inferInstanceAs (Decidable True)
  | state, action :: rest =>
      match found : step state action with
      | none => decidable_of_iff (condition state action) (by simp [Meets, found])
      | some next =>
          have := Meets.decidable step condition next rest
          decidable_of_iff (condition state action ∧ Meets step condition next rest)
            (by simp [Meets, found])

variable {step : σ → α → Option σ} {condition : σ → α → Prop} {inv : σ → Prop}

/-- An invariant kept by every step that meets the condition holds after every
run all of whose steps meet it. -/
theorem run_keeps_of_meets
    (keeps : ∀ state action next, inv state → condition state action →
      step state action = some next → inv next) :
    ∀ (actions : List α) (first last : σ), inv first → Meets step condition first actions →
      run step first actions = some last → inv last := by
  intro actions
  induction actions with
  | nil =>
      intro first last holds _ reached
      cases reached
      exact holds
  | cons action rest ih =>
      intro first last holds meets reached
      unfold run at reached
      unfold Meets at meets
      cases taken : step first action with
      | none => simp [taken] at reached
      | some next =>
          simp only [taken] at reached meets
          exact ih next last (keeps first action next holds meets.1 taken) meets.2 reached

/-- A property that a step keeps exactly if the step meets the condition holds after a run
exactly if all its steps meet it. -/
theorem run_iff_meets {property : σ → Prop}
    (keeps : ∀ state action next, inv state → step state action = some next → inv next)
    (exactly : ∀ state action next, inv state → step state action = some next →
      (property next ↔ property state ∧ condition state action)) :
    ∀ (actions : List α) (first last : σ), inv first → run step first actions = some last →
      (property last ↔ property first ∧ Meets step condition first actions) := by
  intro actions
  induction actions with
  | nil =>
      intro first last _ reached
      cases reached
      exact (and_iff_left trivial).symm
  | cons action rest ih =>
      intro first last holds reached
      unfold run at reached
      unfold Meets
      cases taken : step first action with
      | none => simp [taken] at reached
      | some next =>
          simp only [taken] at reached ⊢
          rw [ih next last (keeps first action next holds taken) reached,
            exactly first action next holds taken, and_assoc]

/-- The same for an invariant that speaks of the actions taken so far. -/
theorem run_keeps_history {inv : List α → σ → Prop}
    (keeps : ∀ done state action next, inv done state → condition state action →
      step state action = some next → inv (done ++ [action]) next) :
    ∀ (actions done : List α) (first last : σ), inv done first →
      Meets step condition first actions → run step first actions = some last →
      inv (done ++ actions) last := by
  intro actions
  induction actions with
  | nil =>
      intro done first last holds _ reached
      cases reached
      rw [List.append_nil]
      exact holds
  | cons action rest ih =>
      intro done first last holds meets reached
      unfold run at reached
      unfold Meets at meets
      cases taken : step first action with
      | none => simp [taken] at reached
      | some next =>
          simp only [taken] at reached meets
          have later := ih (done ++ [action]) next last
            (keeps done first action next holds meets.1 taken) meets.2 reached
          rwa [List.append_assoc, List.singleton_append] at later

theorem Meets.and {other : σ → α → Prop} :
    ∀ {actions : List α} {state : σ}, Meets step condition state actions →
      Meets step other state actions →
      Meets step (fun state action => condition state action ∧ other state action) state
        actions := by
  intro actions
  induction actions with
  | nil =>
      intro state _ _
      trivial
  | cons action rest ih =>
      intro state first second
      unfold Meets at first second ⊢
      refine ⟨⟨first.1, second.1⟩, ?_⟩
      cases taken : step state action with
      | none => trivial
      | some next =>
          simp only [taken] at first second
          exact ih first.2 second.2

theorem Meets.imp {other : σ → α → Prop}
    (weaker : ∀ state action, condition state action → other state action) :
    ∀ {actions : List α} {state : σ}, Meets step condition state actions →
      Meets step other state actions := by
  intro actions
  induction actions with
  | nil =>
      intro state _
      trivial
  | cons action rest ih =>
      intro state meets
      unfold Meets at meets ⊢
      refine ⟨weaker state action meets.1, ?_⟩
      cases taken : step state action with
      | none => trivial
      | some next =>
          simp only [taken] at meets
          exact ih meets.2

theorem meets_of_forall :
    ∀ {actions : List α}, (∀ action ∈ actions, ∀ state, condition state action) →
      ∀ state, Meets step condition state actions := by
  intro actions
  induction actions with
  | nil => exact fun _ _ => trivial
  | cons action rest ih =>
      intro holds state
      refine ⟨holds action List.mem_cons_self state, ?_⟩
      cases step state action with
      | none => trivial
      | some next => exact ih (fun other member => holds other (List.mem_cons_of_mem _ member)) next

theorem meets_true (step : σ → α → Option σ) (state : σ) (actions : List α) :
    Meets step (fun _ _ => True) state actions :=
  meets_of_forall (fun _ _ _ => trivial) state

/-- Two step functions that agree wherever the condition is met have the same runs. -/
theorem run_congr_of_meets {other : σ → α → Option σ}
    (agree : ∀ state action, condition state action → other state action = step state action) :
    ∀ (actions : List α) (state : σ), Meets step condition state actions →
      run other state actions = run step state actions := by
  intro actions
  induction actions with
  | nil =>
      intro state _
      rfl
  | cons action rest ih =>
      intro state meets
      unfold Meets at meets
      unfold run
      rw [agree state action meets.1]
      cases taken : step state action with
      | none => rfl
      | some next =>
          simp only [taken] at meets
          exact ih next meets.2

/-- The unconditional case: an invariant of every step holds after every run. -/
theorem run_keeps (keeps : ∀ state action next, inv state →
      step state action = some next → inv next)
    {actions : List α} {first last : σ} (holds : inv first)
    (reached : run step first actions = some last) : inv last :=
  @run_keeps_of_meets σ α step (fun _ _ => True) inv
    (fun state action next here _ => keeps state action next here) actions first last holds
    (meets_true step first actions) reached

/-- A bound that a step raises by at most one is raised by a run at most by its length. -/
theorem run_raises {bound : Nat → σ → Prop}
    (raises : ∀ count state action next, bound count state → step state action = some next →
      bound (count + 1) next)
    {actions : List α} {count : Nat} {first last : σ} (holds : bound count first)
    (reached : run step first actions = some last) : bound (count + actions.length) last :=
  @run_keeps_history σ α step (fun _ _ => True) (fun done state => bound (count + done.length) state)
    (fun done state action next here _ taken => by
      rw [List.length_append, List.length_singleton, ← Nat.add_assoc]
      exact raises _ state action next here taken)
    actions [] first last holds (meets_true step first actions) reached

end Transition
