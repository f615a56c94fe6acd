import Mathlib.Data.List.Basic

set_option autoImplicit false

/-! A buffer that is filled by fragments and emptied frame by frame. -/

/-- The first frame of a buffer and what is after it; more fragments change neither. -/
structure Splitter (α : Type) where
  split : List α → Option (List α × List α)
  shrinks : ∀ {buffer frame rest : List α}, split buffer = some (frame, rest) →
    rest.length < buffer.length
  stable : ∀ {buffer frame rest : List α} (more : List α), split buffer = some (frame, rest) →
    split (buffer ++ more) = some (frame, rest ++ more)

namespace Splitter

variable {α : Type} (splitter : Splitter α)

/-- Every complete frame, and the unfinished one. -/
def drain (buffer : List α) : List (List α) × List α :=
  match _found : splitter.split buffer with
  | none => ([], buffer)
  | some (frame, rest) => (frame :: (drain rest).1, (drain rest).2)
termination_by buffer.length
decreasing_by exact splitter.shrinks _found

def frames (buffer : List α) : List (List α) := (splitter.drain buffer).1

def pending (buffer : List α) : List α := (splitter.drain buffer).2

variable {splitter}

theorem drain_none {buffer : List α} (none : splitter.split buffer = none) :
    splitter.drain buffer = ([], buffer) := by
  rw [drain]
  split
  · rfl
  · rename_i found
    rw [none] at found
    cases found

theorem drain_some {buffer frame rest : List α}
    (found : splitter.split buffer = some (frame, rest)) :
    splitter.drain buffer = (frame :: (splitter.drain rest).1, (splitter.drain rest).2) := by
  rw [drain]
  split
  · rename_i none
    rw [found] at none
    cases none
  · rename_i other remaining again
    rw [found] at again
    cases again
    rfl

theorem frames_none {buffer : List α} (none : splitter.split buffer = none) :
    splitter.frames buffer = [] := by
  rw [frames, drain_none none]

theorem pending_none {buffer : List α} (none : splitter.split buffer = none) :
    splitter.pending buffer = buffer := by
  rw [pending, drain_none none]

theorem frames_some {buffer frame rest : List α}
    (found : splitter.split buffer = some (frame, rest)) :
    splitter.frames buffer = frame :: splitter.frames rest := by
  rw [frames, drain_some found]
  rfl

theorem pending_some {buffer frame rest : List α}
    (found : splitter.split buffer = some (frame, rest)) :
    splitter.pending buffer = splitter.pending rest := by
  rw [pending, drain_some found]
  rfl

theorem buffer_induction {motive : List α → Prop}
    (waiting : ∀ buffer, splitter.split buffer = none → motive buffer)
    (more : ∀ buffer frame rest, splitter.split buffer = some (frame, rest) → motive rest →
      motive buffer) (buffer : List α) : motive buffer := by
  induction length : buffer.length using Nat.strongRecOn generalizing buffer with
  | ind count ih =>
      cases found : splitter.split buffer with
      | none => exact waiting buffer found
      | some parts =>
          obtain ⟨frame, rest⟩ := parts
          have shorter := splitter.shrinks found
          exact more buffer frame rest found (ih rest.length (by omega) rest rfl)

/-- The unfinished frame has no complete one in it. -/
theorem split_pending (buffer : List α) : splitter.split (splitter.pending buffer) = none := by
  induction buffer using @buffer_induction α splitter with
  | waiting buffer none => rw [pending_none none, none]
  | more buffer frame rest found ih => rw [pending_some found, ih]

/-- A fragment more completes the unfinished frame and leaves the others. -/
theorem drain_append (buffer more : List α) :
    splitter.frames (buffer ++ more) =
        splitter.frames buffer ++ splitter.frames (splitter.pending buffer ++ more) ∧
      splitter.pending (buffer ++ more) =
        splitter.pending (splitter.pending buffer ++ more) := by
  induction buffer using @buffer_induction α splitter with
  | waiting buffer none =>
      rw [frames_none none, pending_none none, List.nil_append]
      exact ⟨rfl, rfl⟩
  | more buffer frame rest found ih =>
      have again := splitter.stable more found
      rw [frames_some again, pending_some again, frames_some found, pending_some found, ih.1, ih.2]
      exact ⟨rfl, rfl⟩

end Splitter
