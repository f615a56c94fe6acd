import Lvos.Lib.Table
import Mathlib.Algebra.BigOperators.Group.Finset.Basic
import Mathlib.Algebra.GroupWithZero.Nat
import Mathlib.Algebra.Order.BigOperators.Group.Finset

set_option autoImplicit false

namespace Relational.Table

variable {κ ρ : Type}

/-- What the rows of a table weigh together. -/
def total (weight : ρ → Nat) (table : Table κ ρ) : Nat :=
  (table.rows.map (fun entry => weight entry.2)).sum

theorem total_le_length {weight : ρ → Nat} {bound : Nat} (light : ∀ row, weight row ≤ bound)
    (table : Table κ ρ) : table.total weight ≤ bound * table.rows.length := by
  unfold total
  induction table.rows with
  | nil => simp
  | cons entry rest ih =>
      have first := light entry.2
      simp only [List.map_cons, List.sum_cons, List.length_cons, Nat.mul_succ]
      omega

variable [DecidableEq κ]

/-- What the row of a key weighs; nothing where there is none. -/
def weightAt (weight : ρ → Nat) (table : Table κ ρ) (key : κ) : Nat :=
  ((table.get key).map weight).getD 0

theorem weightAt_none {weight : ρ → Nat} {table : Table κ ρ} {key : κ}
    (absent : table.get key = none) : table.weightAt weight key = 0 := by
  simp [weightAt, absent]

theorem weightAt_some {weight : ρ → Nat} {table : Table κ ρ} {key : κ} {row : ρ}
    (stored : table.get key = some row) : table.weightAt weight key = weight row := by
  simp [weightAt, stored]

/-- The keys of the rows. -/
def keys (table : Table κ ρ) : Finset κ := (table.rows.map Prod.fst).toFinset

theorem mem_keys {table : Table κ ρ} {key : κ} :
    key ∈ table.keys ↔ ∃ row, table.get key = some row := by
  unfold keys
  rw [List.mem_toFinset, List.mem_map]
  constructor
  · rintro ⟨entry, member, rfl⟩
    exact ⟨entry.2, (mem_rows_iff table entry.1 entry.2).mp member⟩
  · rintro ⟨row, stored⟩
    exact ⟨(key, row), (mem_rows_iff table key row).mpr stored, rfl⟩

/-- The total, over any keys that cover the table. -/
theorem total_eq_sum (weight : ρ → Nat) (table : Table κ ρ) {all : Finset κ}
    (covers : table.keys ⊆ all) :
    table.total weight = ∑ key ∈ all, table.weightAt weight key := by
  have listed : table.rows.map (fun entry => weight entry.2) =
      (table.rows.map Prod.fst).map (table.weightAt weight) := by
    rw [List.map_map]
    apply List.map_congr_left
    intro entry member
    exact (weightAt_some ((mem_rows_iff table entry.1 entry.2).mp member)).symm
  unfold total
  rw [listed, ← List.sum_toFinset _ table.unique]
  apply Finset.sum_subset covers
  intro key _ outside
  apply weightAt_none
  cases found : table.get key with
  | none => rfl
  | some row => exact absurd (mem_keys.mpr ⟨row, found⟩) outside

variable {weight : ρ → Nat} {before after : Table κ ρ}

/-- A table no key of which got heavier is not heavier. -/
theorem total_le (lower : ∀ key, after.weightAt weight key ≤ before.weightAt weight key) :
    after.total weight ≤ before.total weight := by
  rw [total_eq_sum weight before Finset.subset_union_left,
    total_eq_sum weight after (@Finset.subset_union_right κ _ before.keys after.keys)]
  exact Finset.sum_le_sum (fun key _ => lower key)

/-- It is lighter when some key got lighter. -/
theorem total_lt (lower : ∀ key, after.weightAt weight key ≤ before.weightAt weight key)
    (key : κ) (strict : after.weightAt weight key < before.weightAt weight key) :
    after.total weight < before.total weight := by
  have listed : key ∈ before.keys ∪ after.keys := by
    cases stored : before.get key with
    | none =>
        rw [weightAt_none stored] at strict
        omega
    | some row => exact Finset.mem_union_left _ (mem_keys.mpr ⟨row, stored⟩)
  rw [total_eq_sum weight before Finset.subset_union_left,
    total_eq_sum weight after (@Finset.subset_union_right κ _ before.keys after.keys)]
  exact Finset.sum_lt_sum (fun key _ => lower key) ⟨key, listed, strict⟩

/-- Two tables that differ at one key differ by what weighs there. -/
theorem total_shift (key : κ) (others : ∀ other, other ≠ key → after.get other = before.get other) :
    after.total weight + before.weightAt weight key =
      before.total weight + after.weightAt weight key := by
  have listed : key ∈ insert key (before.keys ∪ after.keys) := Finset.mem_insert_self _ _
  have older : before.keys ⊆ insert key (before.keys ∪ after.keys) :=
    Finset.subset_union_left.trans (Finset.subset_insert _ _)
  have newer : after.keys ⊆ insert key (before.keys ∪ after.keys) :=
    Finset.subset_union_right.trans (Finset.subset_insert _ _)
  rw [total_eq_sum weight before older, total_eq_sum weight after newer,
    ← Finset.add_sum_erase _ _ listed, ← Finset.add_sum_erase _ _ listed]
  have same : ∑ other ∈ (insert key (before.keys ∪ after.keys)).erase key,
        after.weightAt weight other =
      ∑ other ∈ (insert key (before.keys ∪ after.keys)).erase key,
        before.weightAt weight other := by
    apply Finset.sum_congr rfl
    intro other member
    unfold weightAt
    rw [others other (Finset.ne_of_mem_erase member)]
  rw [same]
  omega

end Relational.Table
