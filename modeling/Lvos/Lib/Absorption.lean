import Mathlib.Logic.Basic

set_option autoImplicit false

namespace Absorption

variable {σ α : Type}

/-- What turns, one for each value, may lead to. -/
inductive Turns (turn : σ → α → σ → Prop) : σ → List α → σ → Prop
  | nil (state : σ) : Turns turn state [] state
  | cons {first middle last : σ} {value : α} {rest : List α} (head : turn first value middle)
      (tail : Turns turn middle rest last) : Turns turn first (value :: rest) last

section Turns

variable {turn : σ → α → σ → Prop} {first last : σ} {values : List α}

theorem Turns.keeps (inv : σ → Prop) (turns : Turns turn first values last)
    (step : ∀ state value next, value ∈ values → turn state value next → inv state → inv next)
    (holds : inv first) : inv last := by
  induction turns with
  | nil state => exact holds
  | cons head tail ih =>
      refine ih ?_ (step _ _ _ List.mem_cons_self head holds)
      exact fun state value next member => step state value next (List.mem_cons_of_mem _ member)

/-- What relates the ends of every turn relates the ends of all of them. -/
theorem Turns.relates {below : σ → σ → Prop} (turns : Turns turn first values last)
    (refl : ∀ state, below state state)
    (trans : ∀ first middle last, below first middle → below middle last → below first last)
    (step : ∀ state value next, value ∈ values → turn state value next → below state next) :
    below first last := by
  induction turns with
  | nil state => exact refl state
  | cons head tail ih =>
      refine trans _ _ _ (step _ _ _ List.mem_cons_self head) (ih ?_)
      exact fun state value next member => step state value next (List.mem_cons_of_mem _ member)

end Turns

/-- A turn raises the state until the state holds the value; a value that is held is skipped. -/
structure Absorbs (below : σ → σ → Prop) (holds : σ → α → Prop) (turn : σ → α → σ → Prop) :
    Prop where
  refl : ∀ state, below state state
  trans : ∀ first middle last, below first middle → below middle last → below first last
  raises : ∀ state value next, turn state value next → below state next
  stored : ∀ state value next, turn state value next → holds next value
  stays : ∀ state value next, below state next → holds state value → holds next value
  skips : ∀ state value next, holds state value → turn state value next → next = state

section Runs

variable {below : σ → σ → Prop} {holds : σ → α → Prop} {turn : σ → α → σ → Prop}
  {first last : σ} {values : List α}

theorem Absorbs.raises_all (absorbs : Absorbs below holds turn)
    (turns : Turns turn first values last) : below first last :=
  turns.relates absorbs.refl absorbs.trans
    (fun state value next _ => absorbs.raises state value next)

theorem Absorbs.stored_all (absorbs : Absorbs below holds turn)
    (turns : Turns turn first values last) : ∀ value ∈ values, holds last value := by
  induction turns with
  | nil state => exact nofun
  | cons head tail ih =>
      intro value member
      rcases List.mem_cons.mp member with rfl | later
      · exact absorbs.stays _ _ _ (absorbs.raises_all tail) (absorbs.stored _ _ _ head)
      · exact ih value later

theorem Absorbs.skips_all (absorbs : Absorbs below holds turn)
    (turns : Turns turn first values last) (held : ∀ value ∈ values, holds first value) :
    last = first := by
  induction turns with
  | nil state => rfl
  | cons head tail ih =>
      have unchanged := absorbs.skips _ _ _ (held _ List.mem_cons_self) head
      subst unchanged
      exact ih (fun value member => held value (List.mem_cons_of_mem _ member))

end Runs

end Absorption
