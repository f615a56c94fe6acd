import Lvos.Lib.Schema
import Mathlib.Data.List.Basic

set_option autoImplicit false

namespace Migrations

open Relational (Table)
open Schema

/-! Scripts that take a database from one schema to the next, and the table that records
which of them ran. -/

/-- The recording table and its columns. -/
structure Ledger where
  table : String
  version : String
  name : String
  appliedAt : String

structure Migration where
  version : Int
  name : String
  sql : List Statement
deriving DecidableEq

/-- What the ledger says of a migration. -/
def Migration.entry (migration : Migration) : List Value :=
  [.integer migration.version, .text migration.name]

namespace Ledger

variable (ledger : Ledger)

def columns : List String := [ledger.version, ledger.name]

def record (migration : Migration) (appliedAt : Value) : List (String × Value) :=
  [(ledger.version, .integer migration.version), (ledger.name, .text migration.name),
    (ledger.appliedAt, appliedAt)]

/-- A script and its entry in the ledger. -/
def apply (appliedAt : Value) (catalogue : Catalogue) (migration : Migration) :
    Option Catalogue :=
  (executeBatch catalogue migration.sql).bind
    (fun next => insert next ledger.table (ledger.record migration appliedAt))

def applyAll (appliedAt : Value) : Catalogue → List Migration → Option Catalogue
  | catalogue, [] => some catalogue
  | catalogue, migration :: rest =>
      (ledger.apply appliedAt catalogue migration).bind
        (fun next => applyAll appliedAt next rest)

/-- The entries in the order they were made. -/
def recorded (catalogue : Catalogue) : List (List Value) :=
  (select catalogue ledger.table ledger.columns).getD []

/-- Whether the catalogue has the table under this very name. -/
def stands (catalogue : Catalogue) : Bool :=
  match catalogue.get (folded ledger.table) with
  | some (.table name _ _) => name = ledger.table
  | _ => false

/-- The ledger stands under its own name and can be written and read. -/
def readable (catalogue : Catalogue) : Bool :=
  match catalogue.get (folded ledger.table) with
  | some (.table name columns _) =>
      name = ledger.table &&
        [ledger.version, ledger.name, ledger.appliedAt].all (hasColumn columns)
  | _ => false

end Ledger

/-- What the scripts make of an empty database. -/
def skeleton (known : List Migration) : Option Catalogue :=
  executeBatch Table.empty (known.flatMap Migration.sql)

/-- The scripts fit together: each runs where those before it have run, and none touches
the columns of the ledger that the first of them makes. -/
structure Coherent (ledger : Ledger) (known : List Migration) : Prop where
  apart : folded ledger.version ≠ folded ledger.name
  ascending : known.Pairwise (fun first second => first.version < second.version)
  positive : ∀ migration ∈ known, 0 < migration.version
  builds : ∀ count < known.length,
    ∃ built, skeleton (known.take (count + 1)) = some built ∧ ledger.readable built = true
  spares : ∀ migration ∈ known, ∀ statement ∈ migration.sql,
    statement.widens (folded ledger.table) = false

/-- The version of the last of the first `count` migrations. -/
def versionAt (known : List Migration) (count : Nat) : Int :=
  ((known.take count).map Migration.version).getLastD 0

/-- The database is one on which exactly the first `count` migrations have run, whatever its
rows are. -/
structure Descends (ledger : Ledger) (known : List Migration) (count : Nat)
    (catalogue : Catalogue) : Prop where
  shaped : skeleton (known.take count) = some (shape catalogue)
  recorded : ledger.recorded catalogue = (known.take count).map Migration.entry

section Apply

variable {ledger : Ledger} {known : List Migration} {catalogue after : Catalogue}
  {appliedAt : Value} {migration : Migration}

theorem apply_ok (applied : ledger.apply appliedAt catalogue migration = some after) :
    ∃ next, executeBatch catalogue migration.sql = some next ∧
      insert next ledger.table (ledger.record migration appliedAt) = some after :=
  Option.bind_eq_some_iff.mp applied

theorem apply_grows (applied : ledger.apply appliedAt catalogue migration = some after) :
    Grows catalogue after := by
  obtain ⟨next, executed, inserted⟩ := apply_ok applied
  exact (executeBatch_grows executed).trans (insert_grows inserted)

theorem applyAll_grows {migrations : List Migration} :
    ∀ {catalogue after : Catalogue},
      ledger.applyAll appliedAt catalogue migrations = some after → Grows catalogue after := by
  induction migrations with
  | nil =>
      intro catalogue after applied
      cases applied
      exact Grows.refl catalogue
  | cons migration rest ih =>
      intro catalogue after applied
      obtain ⟨next, first, later⟩ := Option.bind_eq_some_iff.mp applied
      exact (apply_grows first).trans (ih later)

/-- A migration changes no object but the ledger and the tables its script widens. -/
theorem apply_get {key : List Char} {object : Object}
    (applied : ledger.apply appliedAt catalogue migration = some after)
    (spared : ∀ statement ∈ migration.sql, statement.widens key = false)
    (apart : key ≠ folded ledger.table) (found : catalogue.get key = some object) :
    after.get key = some object := by
  obtain ⟨next, executed, inserted⟩ := apply_ok applied
  rw [insert_get inserted apart]
  exact executeBatch_get spared executed found

theorem applyAll_get {key : List Char} {object : Object} {migrations : List Migration}
    (spared : ∀ migration ∈ migrations, ∀ statement ∈ migration.sql,
      statement.widens key = false) (apart : key ≠ folded ledger.table) :
    ∀ {catalogue after : Catalogue}, ledger.applyAll appliedAt catalogue migrations = some after →
      catalogue.get key = some object → after.get key = some object := by
  induction migrations with
  | nil =>
      intro catalogue after applied found
      cases applied
      exact found
  | cons migration rest ih =>
      intro catalogue after applied found
      obtain ⟨next, first, later⟩ := Option.bind_eq_some_iff.mp applied
      have stays := apply_get first (spared migration List.mem_cons_self) apart found
      exact ih (fun other member => spared other (List.mem_cons_of_mem _ member)) later stays

theorem applyAll_wellFormed {migrations : List Migration} :
    ∀ {catalogue after : Catalogue}, WellFormed catalogue →
      ledger.applyAll appliedAt catalogue migrations = some after → WellFormed after := by
  induction migrations with
  | nil =>
      intro catalogue after formed applied
      cases applied
      exact formed
  | cons migration rest ih =>
      intro catalogue after formed applied
      obtain ⟨next, first, later⟩ := Option.bind_eq_some_iff.mp applied
      obtain ⟨made, executed, inserted⟩ := apply_ok first
      exact ih (insert_wellFormed (executeBatch_wellFormed formed executed) inserted) later

/-- What a table other than the ledger is read to hold, it still holds. -/
theorem applyAll_select {migrations : List Migration} {table : String} {names : List String}
    {read : List (List Value)} (apart : folded table ≠ folded ledger.table) :
    ∀ {catalogue after : Catalogue}, WellFormed catalogue →
      ledger.applyAll appliedAt catalogue migrations = some after →
      select catalogue table names = some read → select after table names = some read := by
  induction migrations with
  | nil =>
      intro catalogue after _ applied selected
      cases applied
      exact selected
  | cons migration rest ih =>
      intro catalogue after formed applied selected
      obtain ⟨next, first, later⟩ := Option.bind_eq_some_iff.mp applied
      obtain ⟨made, executed, inserted⟩ := apply_ok first
      have kept := executeBatch_wellFormed formed executed
      have reread := executeBatch_select formed executed selected
      rw [← select_of_get (insert_get inserted apart)] at reread
      exact ih (insert_wellFormed kept inserted) later reread

end Apply

section Descent

variable {ledger : Ledger} {known : List Migration} {catalogue : Catalogue} {count : Nat}

theorem skeleton_append (first second : List Migration) :
    skeleton (first ++ second) =
      (skeleton first).bind
        (fun next => executeBatch next (second.flatMap Migration.sql)) := by
  rw [skeleton, List.flatMap_append, executeBatch_append]
  rfl

theorem skeleton_next {migration : Migration} (next : known[count]? = some migration) :
    skeleton (known.take (count + 1)) =
      (skeleton (known.take count)).bind
        (fun built => executeBatch built migration.sql) := by
  rw [List.take_add_one, next, Option.toList_some, skeleton_append]
  simp only [List.flatMap_cons, List.flatMap_nil, List.append_nil]

theorem empty_of_shape (empty : shape catalogue = Table.empty) : catalogue = Table.empty := by
  apply Table.ext
  have rows : catalogue.rows.map (fun entry => (entry.1, entry.2.emptied)) = [] :=
    congrArg Table.rows empty
  exact List.map_eq_nil_iff.mp rows

theorem Descends.empty (ledger : Ledger) (known : List Migration) :
    Descends ledger known 0 Table.empty :=
  ⟨rfl, rfl⟩

theorem Descends.of_zero (descends : Descends ledger known 0 catalogue) :
    catalogue = Table.empty :=
  empty_of_shape (Option.some.inj descends.shaped).symm

theorem Coherent.take (coherent : Coherent ledger known) (reach : Nat) :
    Coherent ledger (known.take reach) where
  apart := coherent.apart
  ascending := coherent.ascending.sublist (List.take_sublist reach known)
  positive := fun migration member => coherent.positive migration (List.mem_of_mem_take member)
  builds := by
    intro count inside
    rw [List.length_take] at inside
    rw [List.take_take, Nat.min_eq_left (by omega)]
    exact coherent.builds count (by omega)
  spares := fun migration member => coherent.spares migration (List.mem_of_mem_take member)

theorem Descends.take {reach : Nat} (within : count ≤ reach)
    (descends : Descends ledger known count catalogue) :
    Descends ledger (known.take reach) count catalogue := by
  have same : (known.take reach).take count = known.take count := by
    rw [List.take_take, Nat.min_eq_left within]
  exact ⟨same ▸ descends.shaped, same ▸ descends.recorded⟩

theorem Descends.of_take {reach : Nat} (within : count ≤ reach)
    (descends : Descends ledger (known.take reach) count catalogue) :
    Descends ledger known count catalogue := by
  have same : (known.take reach).take count = known.take count := by
    rw [List.take_take, Nat.min_eq_left within]
  exact ⟨same ▸ descends.shaped, same ▸ descends.recorded⟩

theorem readable_iff :
    ledger.readable catalogue = true ↔ ∃ columns rows,
      catalogue.get (folded ledger.table) = some (.table ledger.table columns rows) ∧
        hasColumn columns ledger.version = true ∧ hasColumn columns ledger.name = true ∧
        hasColumn columns ledger.appliedAt = true := by
  unfold Ledger.readable
  constructor
  · intro readable
    split at readable
    case h_1 name columns rows found =>
      simp only [List.all_cons, List.all_nil, Bool.and_true, Bool.and_eq_true,
        decide_eq_true_eq] at readable
      obtain ⟨rfl, known⟩ := readable
      exact ⟨columns, rows, found, known⟩
    case h_2 => cases readable
  · rintro ⟨columns, rows, found, known⟩
    rw [found]
    simpa using known

/-- Emptying a catalogue leaves its ledger as readable as it was. -/
theorem readable_shape : ledger.readable (shape catalogue) = ledger.readable catalogue := by
  unfold Ledger.readable
  rw [get_shape]
  cases catalogue.get (folded ledger.table) with
  | none => rfl
  | some object => cases object <;> rfl

theorem Descends.readable (coherent : Coherent ledger known) (within : count < known.length)
    (descends : Descends ledger known (count + 1) catalogue) :
    ledger.readable catalogue = true := by
  obtain ⟨built, shaped, readable⟩ := coherent.builds count within
  rw [descends.shaped] at shaped
  cases shaped
  rwa [readable_shape] at readable

/-- What the ledger is given is what it then says. -/
theorem recorded_insert {after : Catalogue} {migration : Migration} {appliedAt : Value}
    (apart : folded ledger.version ≠ folded ledger.name)
    (readable : ledger.readable catalogue = true)
    (inserted : insert catalogue ledger.table (ledger.record migration appliedAt) = some after) :
    ledger.recorded after = ledger.recorded catalogue ++ [migration.entry] := by
  obtain ⟨columns, rows, found, version, named, -⟩ := readable_iff.mp readable
  have before : select catalogue ledger.table ledger.columns =
      some (rows.map (fun row => ledger.columns.map (cellAt columns row))) := by
    simp [select, found, Ledger.columns, version, named]
  obtain ⟨present, known, read⟩ := select_insert inserted before
  have both : hasColumn present ledger.version = true ∧ hasColumn present ledger.name = true := by
    simpa [Ledger.columns] using known
  have first : cellAt present (present.map (cellOf (ledger.record migration appliedAt)))
      ledger.version = .integer migration.version :=
    cellAt_inserted both.1 (by simp [Ledger.record])
  have second : cellAt present (present.map (cellOf (ledger.record migration appliedAt)))
      ledger.name = .text migration.name :=
    cellAt_inserted both.2 (by simp [Ledger.record, apart])
  have entry : ledger.columns.map (cellAt present (present.map
      (cellOf (ledger.record migration appliedAt)))) = migration.entry := by
    simp only [Ledger.columns, List.map_cons, List.map_nil, first, second, Migration.entry]
  rw [Ledger.recorded, Ledger.recorded, read, before, entry]
  rfl

theorem insert_readable {migration : Migration} {appliedAt : Value}
    (readable : ledger.readable catalogue = true) :
    ∃ after, insert catalogue ledger.table (ledger.record migration appliedAt) = some after := by
  obtain ⟨columns, rows, found, version, named, time⟩ := readable_iff.mp readable
  simp [Schema.insert, found, Ledger.record, version, named, time]

/-- The scripts write no entry of the ledger. -/
theorem recorded_executed (coherent : Coherent ledger known) {next : Catalogue}
    {migration : Migration} (member : known[count]? = some migration)
    (descends : Descends ledger known count catalogue)
    (executed : executeBatch catalogue migration.sql = some next) :
    ledger.recorded next = ledger.recorded catalogue := by
  have inside : count < known.length := (List.getElem?_eq_some_iff.mp member).1
  cases count with
  | zero =>
      -- the table is new, so it has no rows
      have new := descends.of_zero
      subst new
      have bare : shape next = next := by
        have same := executeBatch_shape migration.sql Table.empty
        rw [executed] at same
        exact Option.some.inj (same.trans executed)
      have empty : ledger.recorded next = [] := by
        rw [← bare, Ledger.recorded, select, get_shape]
        cases next.get (folded ledger.table) with
        | none => rfl
        | some object =>
            cases object with
            | table name columns rows =>
                simp only [Option.map_some, Object.emptied]
                split <;> rfl
            | view name => rfl
            | index name table => rfl
      rw [empty]
      rfl
  | succ count =>
      obtain ⟨columns, rows, found, -⟩ :=
        readable_iff.mp (descends.readable coherent (by omega))
      have stays := executeBatch_get (coherent.spares migration (List.mem_of_getElem? member))
        executed found
      rw [Ledger.recorded, Ledger.recorded, select_of_get (stays.trans found.symm)]

/-- The next migration runs on every database on which those before it have run. -/
theorem Descends.apply (coherent : Coherent ledger known) {migration : Migration}
    (member : known[count]? = some migration) (appliedAt : Value)
    (descends : Descends ledger known count catalogue) :
    ∃ after, ledger.apply appliedAt catalogue migration = some after ∧
      Descends ledger known (count + 1) after := by
  have inside : count < known.length := (List.getElem?_eq_some_iff.mp member).1
  obtain ⟨built, reached, readable⟩ := coherent.builds count inside
  have script := reached
  rw [skeleton_next member, descends.shaped, Option.bind_some] at script
  obtain ⟨next, executed, shaped⟩ := executeBatch_of_shape script
  rw [← shaped, readable_shape] at readable
  obtain ⟨after, inserted⟩ :
      ∃ after, insert next ledger.table (ledger.record migration appliedAt) = some after :=
    insert_readable readable
  refine ⟨after, ?_, ?_, ?_⟩
  · rw [Ledger.apply, executed, Option.bind_some, inserted]
  · rw [reached, insert_shaped inserted, shaped]
  · rw [recorded_insert coherent.apart readable inserted,
      recorded_executed coherent member descends executed, descends.recorded, List.take_add_one,
      member, Option.toList_some, List.map_append, List.map_cons, List.map_nil]

/-- All that are pending run, one after another. -/
theorem Descends.applyAll (coherent : Coherent ledger known) (appliedAt : Value) :
    ∀ {remaining : Nat} {catalogue : Catalogue} {count : Nat}, count + remaining = known.length →
      Descends ledger known count catalogue →
      ∃ after, ledger.applyAll appliedAt catalogue (known.drop count) = some after ∧
        Descends ledger known known.length after := by
  intro remaining
  induction remaining with
  | zero =>
      intro catalogue count total descends
      have all : count = known.length := by omega
      subst all
      exact ⟨catalogue, by rw [List.drop_length]; rfl, descends⟩
  | succ remaining ih =>
      intro catalogue count total descends
      have inside : count < known.length := by omega
      have member : known[count]? = some known[count] := List.getElem?_eq_getElem inside
      obtain ⟨next, applied, further⟩ := descends.apply coherent member appliedAt
      obtain ⟨after, later, reached⟩ := ih (by omega) further
      refine ⟨after, ?_, reached⟩
      rw [List.drop_eq_getElem_cons inside, Ledger.applyAll, applied, Option.bind_some, later]

/-- Of migrations in ascending order, those above the last of the first ones are the rest. -/
theorem filter_above {ran later : List Migration}
    (ascending : (ran ++ later).Pairwise (fun first second => first.version < second.version))
    (positive : ∀ migration ∈ ran ++ later, 0 < migration.version) :
    (ran ++ later).filter
      (fun migration => (ran.map Migration.version).getLastD 0 < migration.version) = later := by
  obtain ⟨within, -, across⟩ := List.pairwise_append.mp ascending
  rw [List.filter_append, List.filter_eq_nil_iff.mpr, List.nil_append, List.filter_eq_self.mpr]
  · intro migration member
    rw [decide_eq_true_eq]
    rcases List.eq_nil_or_concat ran with rfl | ⟨front, last, rfl⟩
    · exact positive migration (List.mem_append_right _ member)
    · rw [List.concat_eq_append, List.map_append, List.map_singleton, List.getLastD_concat]
      exact across last (by simp) migration member
  · intro migration member
    rw [decide_eq_true_eq, Int.not_lt]
    rcases List.eq_nil_or_concat ran with rfl | ⟨front, last, rfl⟩
    · cases member
    · rw [List.concat_eq_append, List.map_append, List.map_singleton, List.getLastD_concat]
      rw [List.concat_eq_append] at within member
      rcases List.mem_append.mp member with earlier | same
      · have less := (List.pairwise_append.mp within).2.2 migration earlier last (by simp)
        omega
      · have equal := List.mem_singleton.mp same
        subst equal
        omega

/-- What is pending is what has not run. -/
theorem pending_eq (coherent : Coherent ledger known) {release : Nat} (within : count ≤ release) :
    (known.take release).filter (fun migration => versionAt known count < migration.version) =
      (known.take release).drop count := by
  have same : (known.take release).take count = known.take count := by
    rw [List.take_take, Nat.min_eq_left within]
  have parts : known.take count ++ (known.take release).drop count = known.take release := by
    rw [← same, List.take_append_drop]
  have ascending := (coherent.take release).ascending
  have positive := (coherent.take release).positive
  rw [← parts] at ascending positive
  have above := filter_above ascending positive
  rwa [parts] at above

/-- The migrations that a release finds pending run, and the database is then its own. -/
theorem Descends.upgrade (coherent : Coherent ledger known) {release : Nat}
    (released : release ≤ known.length) (within : count ≤ release)
    (descends : Descends ledger known count catalogue) (appliedAt : Value) :
    ∃ after, ledger.applyAll appliedAt catalogue ((known.take release).drop count) =
        some after ∧ Descends ledger known release after := by
  have length : (known.take release).length = release := by
    rw [List.length_take, Nat.min_eq_left released]
  have total : count + (release - count) = (known.take release).length := by omega
  obtain ⟨after, ran, reached⟩ := (descends.take within).applyAll (coherent.take release)
    appliedAt total
  rw [length] at reached
  exact ⟨after, ran, reached.of_take (Nat.le_refl release)⟩

/-- Where only the first of them run, the database is that of an earlier release. -/
theorem Descends.begun (coherent : Coherent ledger known) {release : Nat}
    (released : release ≤ known.length) (within : count ≤ release)
    (descends : Descends ledger known count catalogue) {ran : List Migration}
    (front : ran <+: (known.take release).drop count) {appliedAt : Value} {after : Catalogue}
    (applied : ledger.applyAll appliedAt catalogue ran = some after) :
    ∃ reached ≤ known.length, Descends ledger known reached after := by
  have short := front.length_le
  rw [List.length_drop, List.length_take, Nat.min_eq_left released] at short
  have taken := List.prefix_iff_eq_take.mp front
  rw [List.take_drop, List.take_take, Nat.min_eq_left (by omega)] at taken
  have known_ : count + ran.length ≤ known.length := by omega
  obtain ⟨last, same, reached⟩ := descends.upgrade coherent known_ (by omega) appliedAt
  rw [← taken, applied] at same
  cases same
  exact ⟨count + ran.length, by omega, reached⟩

theorem versionAt_positive (coherent : Coherent ledger known) (inside : count < known.length) :
    0 < versionAt known (count + 1) := by
  have last : known.take (count + 1) = known.take count ++ [known[count]] :=
    List.take_succ_eq_append_getElem inside
  rw [versionAt, last, List.map_append, List.map_singleton, List.getLastD_concat]
  exact coherent.positive _ (List.getElem_mem inside)

theorem Descends.stands (coherent : Coherent ledger known) (inside : count < known.length)
    (descends : Descends ledger known (count + 1) catalogue) : ledger.stands catalogue = true := by
  obtain ⟨columns, rows, found, -⟩ := readable_iff.mp (descends.readable coherent inside)
  simp [Ledger.stands, found]

theorem Descends.selected (coherent : Coherent ledger known) (inside : count < known.length)
    (descends : Descends ledger known (count + 1) catalogue) :
    select catalogue ledger.table ledger.columns =
      some ((known.take (count + 1)).map Migration.entry) := by
  obtain ⟨columns, rows, found, version, named, -⟩ :=
    readable_iff.mp (descends.readable coherent inside)
  have selected : select catalogue ledger.table ledger.columns =
      some (rows.map (fun row => ledger.columns.map (cellAt columns row))) := by
    simp [select, found, Ledger.columns, version, named]
  rw [← descends.recorded, Ledger.recorded, selected]
  rfl

/-- The versions alone. -/
theorem Descends.versions (coherent : Coherent ledger known) (inside : count < known.length)
    (descends : Descends ledger known (count + 1) catalogue) :
    select catalogue ledger.table [ledger.version] =
      some ((known.take (count + 1)).map (fun migration => [.integer migration.version])) := by
  obtain ⟨columns, rows, found, version, named, -⟩ :=
    readable_iff.mp (descends.readable coherent inside)
  have entries := descends.selected coherent inside
  simp only [select, found, Ledger.columns, List.all_cons, version, named, List.all_nil,
    Bool.and_self, ↓reduceIte, Option.some.injEq, List.map_cons, List.map_nil] at entries
  have firsts := congrArg (List.map (List.take 1)) entries
  simp only [List.map_map] at firsts
  simp only [select, found, List.all_cons, version, List.all_nil, Bool.and_self, ↓reduceIte,
    List.map_cons, List.map_nil]
  exact congrArg some firsts

end Descent

end Migrations
