import Mathlib.Data.List.Forall2

set_option autoImplicit false

namespace Transaction

variable {σ ε α β : Type}

theorem bind_ok_iff {first : Except ε α} {next : α → Except ε β} {result : β} :
    (first >>= next) = .ok result ↔ ∃ value, first = .ok value ∧ next value = .ok result := by
  cases first with
  | error reason => simp [bind, Except.bind]
  | ok value => simp [bind, Except.bind]

theorem toOption_eq_some_iff {outcome : Except ε α} {value : α} :
    outcome.toOption = some value ↔ outcome = .ok value := by
  cases outcome with
  | error reason => simp [Except.toOption]
  | ok other => simp [Except.toOption]

theorem mapM_ok {step : α → Except ε β} {result : α → β} {values : List α}
    (each : ∀ value ∈ values, step value = .ok (result value)) :
    values.mapM step = .ok (values.map result) := by
  induction values with
  | nil => rfl
  | cons value rest ih =>
      rw [List.mapM_cons, each value List.mem_cons_self,
        ih (fun other member => each other (List.mem_cons_of_mem _ member))]
      rfl

section Pointwise

variable {related : α → β → Prop} {values : List α} {results : List β}

theorem related_of_mem_left (all : List.Forall₂ related values results) :
    ∀ value ∈ values, ∃ result ∈ results, related value result := by
  induction all with
  | nil => simp
  | cons head tail ih =>
      intro value member
      rcases List.mem_cons.mp member with same | later
      · exact ⟨_, List.mem_cons_self, same ▸ head⟩
      · obtain ⟨result, inside, holds⟩ := ih value later
        exact ⟨result, List.mem_cons_of_mem _ inside, holds⟩

theorem related_of_mem_right (all : List.Forall₂ related values results) :
    ∀ result ∈ results, ∃ value ∈ values, related value result :=
  related_of_mem_left all.flip

end Pointwise

/-- Commits what the body returns, or rolls every table back. -/
def atomically (body : σ → Except ε (σ × α)) (state : σ) : σ × Except ε α :=
  match body state with
  | .ok (next, value) => (next, .ok value)
  | .error reason => (state, .error reason)

theorem atomically_of_ok {body : σ → Except ε (σ × α)} {state next : σ} {value : α}
    (success : body state = .ok (next, value)) :
    atomically body state = (next, .ok value) := by
  simp only [atomically, success]

theorem atomically_of_error {body : σ → Except ε (σ × α)} {state : σ} {reason : ε}
    (failed : body state = .error reason) :
    atomically body state = (state, .error reason) := by
  simp only [atomically, failed]

theorem ok_of_atomically {body : σ → Except ε (σ × α)} {state next : σ} {value : α}
    (committed : atomically body state = (next, .ok value)) : body state = .ok (next, value) := by
  cases outcome : body state with
  | error reason =>
      rw [atomically_of_error outcome] at committed
      cases committed
  | ok pair =>
      obtain ⟨reached, result⟩ := pair
      rw [atomically_of_ok outcome] at committed
      cases committed
      rfl

theorem atomically_rolls_back {body : σ → Except ε (σ × α)} {state : σ} {reason : ε}
    (failed : (atomically body state).2 = .error reason) : (atomically body state).1 = state := by
  cases outcome : body state with
  | error other => rw [atomically_of_error outcome]
  | ok pair =>
      obtain ⟨next, value⟩ := pair
      rw [atomically_of_ok outcome] at failed
      cases failed

/-- A transaction either leaves the state as it was or commits its body. -/
theorem atomically_cases (body : σ → Except ε (σ × α)) (state : σ) :
    (atomically body state).1 = state ∨
      ∃ next value, body state = .ok (next, value) ∧
        atomically body state = (next, .ok value) := by
  cases outcome : body state with
  | error reason => exact Or.inl (by rw [atomically_of_error outcome])
  | ok pair =>
      obtain ⟨next, value⟩ := pair
      exact Or.inr ⟨next, value, rfl, atomically_of_ok outcome⟩

/-- What holds before a transaction and of every state its body commits holds after it. -/
theorem atomically_keeps {P : σ → Prop} (body : σ → Except ε (σ × α)) (state : σ)
    (holds : P state) (commits : ∀ next value, body state = .ok (next, value) → P next) :
    P (atomically body state).1 := by
  rcases atomically_cases body state with same | ⟨next, value, success, committed⟩
  · rw [same]
    exact holds
  · rw [committed]
    exact commits next value success

end Transaction
