import Mathlib.Algebra.Order.BigOperators.Group.List
import Mathlib.Algebra.GroupWithZero.Nat
import Mathlib.Data.List.Count

set_option autoImplicit false

namespace Tally

/-! Occurrences in a log, counted by the member that made them and by a name that several
members may share. -/

variable {ν : Type} [DecidableEq ν]

theorem length_filter_ne (log : List ν) (name : ν) :
    (log.filter (fun other => other ≠ name)).length + log.count name = log.length := by
  induction log with
  | nil => rfl
  | cons first rest ih =>
      simp only [ne_eq] at ih
      rw [List.filter_cons, List.count_cons, List.length_cons]
      by_cases same : first = name
      · simp only [same, ne_eq, not_true_eq_false, decide_false, Bool.false_eq_true, ↓reduceIte,
          BEq.rfl]
        omega
      · simp only [ne_eq, same, not_false_eq_true, decide_true, ↓reduceIte, List.length_cons,
          beq_iff_eq]
        omega

theorem count_filter_ne (log : List ν) {name other : ν} (apart : other ≠ name) :
    (log.filter (fun value => value ≠ name)).count other = log.count other :=
  List.count_filter (by simpa using apart)

/-- Amounts of different names, none above what its name has in the log, are not above
the log together. -/
theorem sum_le_length : ∀ (amounts : List (ν × Nat)) (log : List ν),
    (amounts.map Prod.fst).Nodup → (∀ entry ∈ amounts, entry.2 ≤ log.count entry.1) →
    (amounts.map Prod.snd).sum ≤ log.length := by
  intro amounts
  induction amounts with
  | nil => simp
  | cons first rest ih =>
      intro log distinct bounded
      rw [List.map_cons, List.nodup_cons] at distinct
      have apart : ∀ entry ∈ rest, entry.1 ≠ first.1 := by
        intro entry member same
        exact distinct.1 (same ▸ List.mem_map_of_mem member)
      have others := ih (log.filter (fun other => other ≠ first.1)) distinct.2 (by
        intro entry member
        rw [count_filter_ne log (apart entry member)]
        exact bounded entry (List.mem_cons_of_mem first member))
      have mine := bounded first List.mem_cons_self
      have whole := length_filter_ne log first.1
      rw [List.map_cons, List.sum_cons]
      omega

theorem sum_filter_ne (amounts : List (ν × Nat)) (name : ν) {most : Nat}
    (distinct : (amounts.map Prod.fst).Nodup)
    (mine : ∀ entry ∈ amounts, entry.1 = name → entry.2 ≤ most) :
    (amounts.map Prod.snd).sum ≤
      most + ((amounts.filter (fun entry => entry.1 ≠ name)).map Prod.snd).sum := by
  induction amounts with
  | nil => simp
  | cons first rest ih =>
      rw [List.map_cons, List.nodup_cons] at distinct
      by_cases same : first.1 = name
      · have others : rest.filter (fun entry => entry.1 ≠ name) = rest := by
          rw [List.filter_eq_self]
          intro entry member
          have apart : entry.1 ≠ name := by
            intro equal
            exact distinct.1 (same.trans equal.symm ▸ List.mem_map_of_mem member)
          simpa using apart
        have own := mine first List.mem_cons_self same
        rw [List.filter_cons_of_neg (by simpa using same), others, List.map_cons, List.sum_cons]
        omega
      · have later := ih distinct.2 (fun entry member =>
          mine entry (List.mem_cons_of_mem first member))
        rw [List.filter_cons_of_pos (by simpa using same), List.map_cons, List.map_cons,
          List.sum_cons, List.sum_cons]
        omega

/-- The same with one name set apart: its own amount, and the log without it. -/
theorem sum_le_apart (amounts : List (ν × Nat)) (log : List ν) (name : ν) {most : Nat}
    (distinct : (amounts.map Prod.fst).Nodup)
    (mine : ∀ entry ∈ amounts, entry.1 = name → entry.2 ≤ most)
    (bounded : ∀ entry ∈ amounts, entry.1 ≠ name → entry.2 ≤ log.count entry.1) :
    (amounts.map Prod.snd).sum + log.count name ≤ most + log.length := by
  have split := sum_filter_ne amounts name distinct mine
  have others := sum_le_length (amounts.filter (fun entry => entry.1 ≠ name))
    (log.filter (fun other => other ≠ name))
    (distinct.sublist (List.filter_sublist.map Prod.fst)) (by
      intro entry member
      rw [List.mem_filter] at member
      have apart : entry.1 ≠ name := by simpa using member.2
      rw [count_filter_ne log apart]
      exact bounded entry member.1 apart)
  have whole := length_filter_ne log name
  omega

variable {ι : Type} [DecidableEq ι] (naming : ι → ν)

theorem count_le_named (log : List ι) (member : ι) :
    log.count member ≤ (log.map naming).count (naming member) :=
  List.count_le_count_map

/-- Two members of one name share what the name has. -/
theorem count_add_le_named (log : List ι) {member other : ι} (apart : other ≠ member)
    (same : naming other = naming member) :
    log.count other + log.count member ≤ (log.map naming).count (naming member) := by
  induction log with
  | nil => rfl
  | cons first rest ih =>
      rw [List.map_cons, List.count_cons, List.count_cons, List.count_cons]
      by_cases mine : first = member
      · have different : first ≠ other := fun equal => apart (equal.symm.trans mine)
        simp only [mine, BEq.rfl, ↓reduceIte, beq_iff_eq]
        rw [if_neg (fun equal => apart equal.symm)]
        omega
      · by_cases theirs : first = other
        · simp only [theirs, BEq.rfl, ↓reduceIte, beq_iff_eq, same]
          rw [if_neg apart]
          omega
        · simp only [beq_iff_eq, mine, theirs, ↓reduceIte]
          omega

end Tally
