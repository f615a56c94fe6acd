import Lvos.Lib.Table

set_option autoImplicit false

namespace Relational

variable {κ ρ : Type} [DecidableEq κ]

namespace Table

/-- Row by row: the new key of a row may be no other row's key, changed already or not. -/
def renameRows (change : κ × ρ → κ × ρ) : List (κ × ρ) → List (κ × ρ) → Option (List (κ × ρ))
  | done, [] => some done
  | done, entry :: rest =>
      if (change entry).1 ∈ (done ++ rest).map Prod.fst then none
      else renameRows change (done ++ [change entry]) rest

omit [DecidableEq κ] in
theorem unique_turn {done rest : List (κ × ρ)} {entry moved : κ × ρ}
    (free : moved.1 ∉ (done ++ rest).map Prod.fst)
    (unique : ((done ++ entry :: rest).map Prod.fst).Nodup) :
    ((done ++ [moved] ++ rest).map Prod.fst).Nodup := by
  have fewer : (done ++ rest).Sublist (done ++ entry :: rest) :=
    (List.sublist_cons_self entry rest).append_left done
  have front : ((moved :: (done ++ rest)).map Prod.fst).Nodup := by
    rw [List.map_cons, List.nodup_cons]
    exact ⟨free, (fewer.map Prod.fst).nodup unique⟩
  have moves : (moved :: (done ++ rest)).Perm (done ++ [moved] ++ rest) := by
    rw [List.append_assoc, List.singleton_append]
    exact List.perm_middle.symm
  exact (moves.map Prod.fst).nodup_iff.mp front

variable {change : κ × ρ → κ × ρ}

theorem renameRows_unique : ∀ {rest done rows : List (κ × ρ)},
    ((done ++ rest).map Prod.fst).Nodup → renameRows change done rest = some rows →
    (rows.map Prod.fst).Nodup := by
  intro rest
  induction rest with
  | nil =>
      intro done rows unique renamed
      cases renamed
      rwa [List.append_nil] at unique
  | cons entry rest ih =>
      intro done rows unique renamed
      unfold renameRows at renamed
      split at renamed
      · cases renamed
      · rename_i free
        exact ih (unique_turn free unique) renamed

theorem renameRows_map : ∀ {rest done rows : List (κ × ρ)},
    renameRows change done rest = some rows → rows = done ++ rest.map change := by
  intro rest
  induction rest with
  | nil =>
      intro done rows renamed
      cases renamed
      simp
  | cons entry rest ih =>
      intro done rows renamed
      unfold renameRows at renamed
      split at renamed
      · cases renamed
      · rw [ih renamed]
        simp

/-- A key that is kept, or is new to the table, is never taken. -/
theorem renameRows_total : ∀ {rest done : List (κ × ρ)},
    ((done ++ rest.map change).map Prod.fst).Nodup → ((done ++ rest).map Prod.fst).Nodup →
    (∀ entry ∈ rest, (change entry).1 = entry.1 ∨ (change entry).1 ∉ rest.map Prod.fst) →
    ∃ rows, renameRows change done rest = some rows := by
  intro rest
  induction rest with
  | nil =>
      intro done _ _ _
      exact ⟨done, rfl⟩
  | cons entry rest ih =>
      intro done renamed unique apart
      have free : (change entry).1 ∉ (done ++ rest).map Prod.fst := by
        rw [List.map_append, List.mem_append, not_or]
        constructor
        · intro taken
          rw [List.map_append, List.map_cons, List.map_cons] at renamed
          exact (List.nodup_append.mp renamed).2.2 _ taken _ List.mem_cons_self rfl
        · rcases apart entry List.mem_cons_self with kept | new
          · rw [kept]
            rw [List.map_append, List.map_cons] at unique
            exact (List.nodup_cons.mp (List.nodup_append.mp unique).2.1).1
          · intro taken
            exact new (List.mem_cons_of_mem entry.1 taken)
      unfold renameRows
      rw [if_neg free]
      apply ih
      · rwa [List.append_assoc, List.singleton_append]
      · exact unique_turn free unique
      · intro other member
        rcases apart other (List.mem_cons_of_mem entry member) with kept | new
        · exact Or.inl kept
        · exact Or.inr (fun taken => new (List.mem_cons_of_mem entry.1 taken))

/-- `UPDATE … SET` of a unique key: it fails when a row would take the key of another. -/
def rename (table : Table κ ρ) (change : κ × ρ → κ × ρ) : Option (Table κ ρ) :=
  match renamed : renameRows change [] table.rows with
  | none => none
  | some rows => some ⟨rows, renameRows_unique (by simpa using table.unique) renamed⟩

theorem rename_rows {table next : Table κ ρ} (renamed : table.rename change = some next) :
    next.rows = table.rows.map change := by
  unfold rename at renamed
  split at renamed
  · cases renamed
  · rename_i rows found
    cases renamed
    simpa using renameRows_map found

theorem rename_total {table : Table κ ρ}
    (distinct : ((table.rows.map change).map Prod.fst).Nodup)
    (apart : ∀ entry ∈ table.rows,
      (change entry).1 = entry.1 ∨ (change entry).1 ∉ table.rows.map Prod.fst) :
    ∃ next, table.rename change = some next := by
  obtain ⟨rows, found⟩ := @renameRows_total _ _ _ change table.rows [] (by simpa using distinct)
    (by simpa using table.unique) apart
  unfold rename
  split
  · rename_i missing
    rw [found] at missing
    cases missing
  · exact ⟨_, rfl⟩

end Table

end Relational
