import Mathlib.Data.List.Nodup

set_option autoImplicit false

namespace Relational

variable {κ ρ : Type}

/-- A relation with a primary key: its rows in insertion order, no key twice. -/
structure Table (κ ρ : Type) where
  rows : List (κ × ρ)
  unique : (rows.map Prod.fst).Nodup

namespace Table

@[ext] theorem ext {first second : Table κ ρ} (same : first.rows = second.rows) :
    first = second := by
  cases first
  cases second
  simpa using same

instance [DecidableEq κ] [DecidableEq ρ] : DecidableEq (Table κ ρ) := fun first second =>
  decidable_of_iff (first.rows = second.rows) ⟨ext, congrArg rows⟩

def empty : Table κ ρ := ⟨[], List.nodup_nil⟩

variable [DecidableEq κ]

/-- The row a primary key selects. -/
def get (table : Table κ ρ) (key : κ) : Option ρ :=
  table.rows.lookup key

/-- Replaces the row of `key` where it stands, or appends it. -/
def putRows (key : κ) (row : ρ) : List (κ × ρ) → List (κ × ρ)
  | [] => [(key, row)]
  | entry :: rest =>
      if entry.1 = key then (key, row) :: rest else entry :: putRows key row rest

theorem mem_putRows_fst (key : κ) (row : ρ) (rows : List (κ × ρ)) (other : κ) :
    other ∈ (putRows key row rows).map Prod.fst ↔ other = key ∨ other ∈ rows.map Prod.fst := by
  induction rows with
  | nil => simp [putRows]
  | cons entry rest ih =>
      by_cases same : entry.1 = key
      · simp only [putRows, same, ↓reduceIte, List.map_cons, List.mem_cons]
        tauto
      · simp only [putRows, same, ↓reduceIte, List.map_cons, List.mem_cons, ih]
        tauto

theorem putRows_unique (key : κ) (row : ρ) (rows : List (κ × ρ))
    (unique : (rows.map Prod.fst).Nodup) : ((putRows key row rows).map Prod.fst).Nodup := by
  induction rows with
  | nil => simp [putRows]
  | cons entry rest ih =>
      simp only [List.map_cons, List.nodup_cons] at unique
      by_cases same : entry.1 = key
      · simpa only [putRows, same, ↓reduceIte, List.map_cons, List.nodup_cons] using
          (same ▸ unique)
      · have fresh : entry.1 ∉ (putRows key row rest).map Prod.fst := by
          rw [mem_putRows_fst]
          rintro (equal | member)
          · exact same equal
          · exact unique.1 member
        simpa only [putRows, same, ↓reduceIte, List.map_cons, List.nodup_cons] using
          And.intro fresh (ih unique.2)

/-- `INSERT … ON CONFLICT(key) DO UPDATE` with every column replaced. -/
def put (table : Table κ ρ) (key : κ) (row : ρ) : Table κ ρ :=
  ⟨putRows key row table.rows, putRows_unique key row table.rows table.unique⟩

/-- `UPDATE … WHERE`: the key of a row never changes. -/
def update (table : Table κ ρ) (selects : κ → ρ → Bool) (change : ρ → ρ) : Table κ ρ :=
  ⟨table.rows.map (fun entry =>
      (entry.1, if selects entry.1 entry.2 then change entry.2 else entry.2)), by
    have same : (table.rows.map (fun entry =>
        (entry.1, if selects entry.1 entry.2 then change entry.2 else entry.2))).map Prod.fst =
        table.rows.map Prod.fst := by
      simp [List.map_map, Function.comp_def]
    rw [same]
    exact table.unique⟩

/-- `DELETE … WHERE`. -/
def delete (table : Table κ ρ) (selects : κ → ρ → Bool) : Table κ ρ :=
  ⟨table.rows.filter (fun entry => !selects entry.1 entry.2),
    (List.filter_sublist.map Prod.fst).nodup table.unique⟩

@[simp] theorem get_empty (key : κ) : (empty : Table κ ρ).get key = none := rfl

theorem lookup_putRows (key : κ) (row : ρ) (rows : List (κ × ρ)) (other : κ) :
    (putRows key row rows).lookup other = if other = key then some row else rows.lookup other := by
  induction rows with
  | nil => by_cases same : other = key <;> simp [putRows, same]
  | cons entry rest ih =>
      obtain ⟨name, value⟩ := entry
      by_cases same : name = key
      · subst same
        by_cases equal : other = name
        · simp [putRows, equal]
        · have differs : (other == name) = false := by simpa using equal
          simp [putRows, equal, List.lookup_cons, differs]
      · by_cases equal : other = name
        · subst equal
          simp [putRows, same]
        · have differs : (other == name) = false := by simpa using equal
          simp only [putRows, same, ↓reduceIte, List.lookup_cons, differs, ih]

@[simp] theorem get_put_self (table : Table κ ρ) (key : κ) (row : ρ) :
    (table.put key row).get key = some row := by
  simp [get, put, lookup_putRows]

theorem get_put_of_ne (table : Table κ ρ) {key other : κ} (row : ρ) (differs : other ≠ key) :
    (table.put key row).get other = table.get other := by
  simp [get, put, lookup_putRows, differs]

theorem get_put (table : Table κ ρ) (key other : κ) (row : ρ) :
    (table.put key row).get other = if other = key then some row else table.get other :=
  lookup_putRows key row table.rows other

theorem isSome_get_put (table : Table κ ρ) (target : κ) (row : ρ) {key : κ}
    (present : (table.get key).isSome = true) : ((table.put target row).get key).isSome = true := by
  rw [get_put]
  split
  · rfl
  · exact present

theorem putRows_same {key : κ} {row : ρ} :
    ∀ {rows : List (κ × ρ)}, rows.lookup key = some row → putRows key row rows = rows := by
  intro rows
  induction rows with
  | nil => simp
  | cons entry rest ih =>
      obtain ⟨name, value⟩ := entry
      intro found
      by_cases same : name = key
      · subst same
        simp only [List.lookup_cons_self, Option.some.injEq] at found
        simp [putRows, found]
      · have differs : (key == name) = false := by simpa using fun equal => same equal.symm
        rw [List.lookup_cons, differs] at found
        simp [putRows, same, ih found]

/-- Writing a row that stands there changes nothing. -/
theorem put_same {table : Table κ ρ} {key : κ} {row : ρ} (stored : table.get key = some row) :
    table.put key row = table :=
  ext (putRows_same stored)

/-- A filter that does not select the key does not see what is written there. -/
theorem filter_putRows {selects : κ × ρ → Bool} {key : κ}
    (misses : ∀ row, selects (key, row) = false) (row : ρ) (rows : List (κ × ρ)) :
    (putRows key row rows).filter selects = rows.filter selects := by
  induction rows with
  | nil => simp [putRows, misses]
  | cons entry rest ih =>
      obtain ⟨name, value⟩ := entry
      by_cases same : name = key
      · subst same
        simp [putRows, misses]
      · simp only [putRows, same, ↓reduceIte, List.filter_cons, ih]

theorem lookup_updateRows (selects : κ → ρ → Bool) (change : ρ → ρ) (rows : List (κ × ρ))
    (key : κ) :
    (rows.map (fun entry =>
        (entry.1, if selects entry.1 entry.2 then change entry.2 else entry.2))).lookup key =
      (rows.lookup key).map (fun row => if selects key row then change row else row) := by
  induction rows with
  | nil => rfl
  | cons entry rest ih =>
      obtain ⟨name, value⟩ := entry
      by_cases equal : key = name
      · subst equal
        simp
      · have differs : (key == name) = false := by simpa using equal
        simp only [List.map_cons, List.lookup_cons, differs]
        exact ih

theorem get_update (table : Table κ ρ) (selects : κ → ρ → Bool) (change : ρ → ρ) (key : κ) :
    (table.update selects change).get key =
      (table.get key).map (fun row => if selects key row then change row else row) :=
  lookup_updateRows selects change table.rows key

theorem isSome_get_update (table : Table κ ρ) (selects : κ → ρ → Bool) (change : ρ → ρ) {key : κ}
    (present : (table.get key).isSome = true) :
    ((table.update selects change).get key).isSome = true := by
  rw [get_update, Option.isSome_map]
  exact present

theorem lookup_none_of_not_mem (key : κ) (rows : List (κ × ρ))
    (absent : key ∉ rows.map Prod.fst) : rows.lookup key = none := by
  rw [List.lookup_eq_none_iff]
  intro entry member
  by_contra same
  apply absent
  have equal : key = entry.1 := by simpa using same
  exact equal ▸ List.mem_map_of_mem member

theorem get_delete (table : Table κ ρ) (selects : κ → ρ → Bool) (key : κ) :
    (table.delete selects).get key = (table.get key).filter (fun row => !selects key row) := by
  obtain ⟨rows, unique⟩ := table
  unfold get delete
  induction rows with
  | nil => rfl
  | cons entry rest ih =>
      obtain ⟨name, value⟩ := entry
      simp only [List.map_cons, List.nodup_cons] at unique
      by_cases equal : key = name
      · subst equal
        by_cases chosen : selects key value
        · have absent : key ∉ (rest.filter (fun entry => !selects entry.1 entry.2)).map Prod.fst :=
            fun member => unique.1 ((List.filter_sublist.map Prod.fst).subset member)
          simp [chosen, Option.filter, lookup_none_of_not_mem key _ absent]
        · simp [chosen, Option.filter]
      · have differs : (key == name) = false := by simpa using equal
        by_cases chosen : selects name value
        · simp only [chosen, Bool.not_true, Bool.false_eq_true, not_false_eq_true,
            List.filter_cons_of_neg, List.lookup_cons, differs]
          exact ih unique.2
        · simp only [chosen, Bool.not_false, List.filter_cons_of_pos, List.lookup_cons, differs]
          exact ih unique.2

/-- `DELETE … WHERE key = ?`. -/
theorem get_delete_key (table : Table κ ρ) (target key : κ) :
    (table.delete (fun other _ => decide (other = target))).get key =
      if key = target then none else table.get key := by
  rw [get_delete]
  by_cases same : key = target
  · cases table.get key <;> simp [same, Option.filter]
  · cases table.get key <;> simp [same, Option.filter]

/-- `UPDATE … WHERE key = ?`. -/
theorem get_update_key (table : Table κ ρ) (target key : κ) (change : ρ → ρ) :
    (table.update (fun other _ => decide (other = target)) change).get key =
      if key = target then (table.get key).map change else table.get key := by
  rw [get_update]
  by_cases same : key = target
  · simp [same]
  · cases table.get key <;> simp [same]

theorem mem_rows_iff (table : Table κ ρ) (key : κ) (row : ρ) :
    (key, row) ∈ table.rows ↔ table.get key = some row := by
  obtain ⟨rows, unique⟩ := table
  unfold get
  induction rows with
  | nil => simp
  | cons entry rest ih =>
      obtain ⟨name, value⟩ := entry
      simp only [List.map_cons, List.nodup_cons] at unique
      by_cases equal : key = name
      · subst equal
        have absent : (key, row) ∉ rest := fun member => unique.1 (List.mem_map_of_mem member)
        simp only [List.mem_cons, Prod.mk.injEq, true_and, absent, or_false,
          List.lookup_cons_self, Option.some.injEq]
        exact eq_comm
      · have differs : (key == name) = false := by simpa using equal
        simp only [List.mem_cons, Prod.mk.injEq, equal, false_and, false_or, List.lookup_cons,
          differs]
        exact ih unique.2

/-- An `UPDATE` relates every row to what becomes of it. -/
theorem update_rel {related : ρ → ρ → Prop} (same : ∀ row, related row row)
    {change : ρ → ρ} (changed : ∀ row, related row (change row)) (table : Table κ ρ)
    (selects : κ → ρ → Bool) (key : κ) :
    Option.Rel related (table.get key) ((table.update selects change).get key) := by
  rw [get_update]
  cases table.get key with
  | none => exact .none
  | some row =>
      rw [Option.map_some]
      split
      · exact .some (changed row)
      · exact .some (same row)

/-- A `UNIQUE` column selects the one row that holds the value. -/
theorem find_unique {τ υ : Type} [DecidableEq υ] (column : τ → υ) (value : υ) (row : τ) :
    ∀ {rows : List τ}, (rows.map column).Nodup →
      (rows.find? (fun other => decide (column other = value)) = some row ↔
        row ∈ rows ∧ column row = value) := by
  intro rows
  induction rows with
  | nil => simp
  | cons entry rest ih =>
      intro unique
      simp only [List.map_cons, List.nodup_cons] at unique
      by_cases same : column entry = value
      · have only : row ∈ rest → column row ≠ value := by
          intro member equal
          apply unique.1
          rw [same, ← equal]
          exact List.mem_map_of_mem member
        simp only [List.find?_cons, same, decide_true, Option.some.injEq, List.mem_cons]
        constructor
        · rintro rfl
          exact ⟨Or.inl rfl, same⟩
        · rintro ⟨rfl | member, equal⟩
          · rfl
          · exact absurd equal (only member)
      · simp only [List.find?_cons, same, decide_false, List.mem_cons]
        rw [ih unique.2]
        constructor
        · rintro ⟨member, equal⟩
          exact ⟨Or.inr member, equal⟩
        · rintro ⟨rfl | member, equal⟩
          · exact absurd equal same
          · exact ⟨member, equal⟩

end Table

end Relational
