import Lvos.Storage.Merge
import Lvos.Storage.Validation
import Lvos.System.Lookups

set_option autoImplicit false

namespace Lvos.System.Lookup

open Lvos.Core Lvos.Storage
open Relational (Table)
open Transition (run Meets run_keeps_of_meets)

/-- A lookup under way will not take a row back: it was started no earlier than the row was
queried, and what it holds is no older than the row's translation. -/
def Tolerates (task : LookupTask) (row : HistoryEntry) : Prop :=
  row.lastQueriedAt ≤ task.now ∧
    match task.stage with
    | .storing entry _ => row.translation.updatedAt ≤ entry.translation.updatedAt
    | _ => True

instance Tolerates.decidable (task : LookupTask) (row : HistoryEntry) :
    Decidable (Tolerates task row) := by
  unfold Tolerates
  split <;> infer_instance

def LookupTask.holdsCached (task : LookupTask) : Bool :=
  match task.stage with
  | .storing _ cacheHit => cacheHit
  | _ => false

/-- The entries of an import that are written to the history. -/
def brought (db : ProfileDb) (document : ValidatedExport) : List HistoryEntry :=
  document.history.filter (fun entry =>
      (db.historyEntries.get entry.content.contentKey).all (fun row =>
        row.lastQueriedAt < entry.lastQueriedAt)) ++
    (document.favorites.filter (fun favorite =>
      favorite.content.contentKey ∉ document.historyKeys ∧
        db.historyEntries.get favorite.content.contentKey = none)).map historyFromFavorite

/-- The step is one of a single Profile and overtakes no lookup under way: a row is written
only when every other lookup of its content tolerates it, the history is cleared only when
no lookup holds a row of it, and an import brings nothing from the future and nothing
older than the row it replaces. -/
def Unhurried [ContentTables] (desktop : Desktop) : DesktopStep → Prop
  | .store id _ =>
      match (desktop.lookups.get id).map LookupTask.stage with
      | some (.storing entry _) =>
          ∀ other ∈ desktop.lookups.rows, other.1 ≠ id →
            other.2.content.contentKey = entry.content.contentKey → Tolerates other.2 entry
      | _ => True
  | .clearHistory => ∀ other ∈ desktop.lookups.rows, other.2.holdsCached = false
  | .importData document target now _ =>
      match validateExport document, desktop.database with
      | .ok validated, some db =>
          db.profileMeta.profileId = target →
          ∀ entry ∈ brought db validated,
            entry.lastQueriedAt ≤ now ∧
            (db.historyEntries.get entry.content.contentKey).all (fun row =>
              row.translation.updatedAt ≤ entry.translation.updatedAt) = true ∧
            ∀ other ∈ desktop.lookups.rows,
              other.2.content.contentKey = entry.content.contentKey → Tolerates other.2 entry
      | _, _ => True
  | .switchProfile _ => False
  | _ => True

instance Unhurried.decidable [ContentTables] (desktop : Desktop) (action : DesktopStep) :
    Decidable (Unhurried desktop action) := by
  unfold Unhurried
  split
  · split <;> infer_instance
  · infer_instance
  · split <;> infer_instance
  · infer_instance
  · infer_instance

/-- A row of the history under its own key, with its times in order. -/
def Filed (clock : Int) (key : ContentKey) (row : HistoryEntry) : Prop :=
  row.content.contentKey = key ∧ row.translation.updatedAt ≤ row.lastQueriedAt ∧
    row.lastQueriedAt ≤ clock

theorem Filed.later {clock now : Int} {key : ContentKey} {row : HistoryEntry}
    (filed : Filed clock key row) (later : clock ≤ now) : Filed now key row :=
  ⟨filed.1, filed.2.1, filed.2.2.trans later⟩

/-- A lookup under way beside a history it may still write to. -/
structure Beside (clock : Int) (history : Table ContentKey HistoryEntry) (task : LookupTask) :
    Prop where
  started : task.now ≤ clock
  tolerates : ∀ row, history.get task.content.contentKey = some row → Tolerates task row
  keyed : ∀ entry cacheHit, task.stage = .storing entry cacheHit →
    entry.content.contentKey = task.content.contentKey
  ordered : ∀ entry cacheHit, task.stage = .storing entry cacheHit →
    entry.lastQueriedAt = task.now ∧ entry.translation.updatedAt ≤ task.now
  present : task.holdsCached = true → history.get task.content.contentKey ≠ none

namespace Beside

variable {clock now : Int} {history after : Table ContentKey HistoryEntry} {task : LookupTask}

theorem later (beside : Beside clock history task) (later : clock ≤ now) :
    Beside now history task :=
  { beside with started := beside.started.trans later }

/-- A write the lookup tolerates leaves it beside the history. -/
theorem written (beside : Beside clock history task)
    (changed : after.get task.content.contentKey = history.get task.content.contentKey ∨
      ∃ entry, after.get task.content.contentKey = some entry ∧ Tolerates task entry) :
    Beside clock after task := by
  refine ⟨beside.started, ?_, beside.keyed, beside.ordered, ?_⟩
  · intro row found
    rcases changed with same | ⟨entry, stored, tolerated⟩
    · exact beside.tolerates row (same ▸ found)
    · rw [stored] at found
      cases found
      exact tolerated
  · intro holds
    rcases changed with same | ⟨entry, stored, -⟩
    · rw [same]
      exact beside.present holds
    · rw [stored]
      exact Option.some_ne_none entry

theorem cleared (beside : Beside clock history task) (free : task.holdsCached = false) :
    Beside clock Table.empty task := by
  refine ⟨beside.started, ?_, beside.keyed, beside.ordered, ?_⟩
  · intro row found
    rw [Table.get_empty] at found
    cases found
  · intro holds
    rw [free] at holds
    cases holds

/-- A lookup that has just been started, or has nothing to store yet. -/
theorem waiting {content : PreparedContent} {targetLang : LanguageCode} {profile : Option Uuid}
    {stage : LookupStage} (started : now ≤ clock)
    (idle : stage = .reading ∨ stage = .translating)
    (queried : ∀ row, history.get content.contentKey = some row → row.lastQueriedAt ≤ now) :
    Beside clock history ⟨content, targetLang, now, profile, stage⟩ := by
  rcases idle with rfl | rfl
  · exact ⟨started, fun row found => ⟨queried row found, trivial⟩, nofun, nofun, nofun⟩
  · exact ⟨started, fun row found => ⟨queried row found, trivial⟩, nofun, nofun, nofun⟩

theorem translating (beside : Beside clock history task) :
    Beside clock history { task with stage := .translating } :=
  waiting beside.started (Or.inr rfl) (fun row found => (beside.tolerates row found).1)

/-- The lookup takes a row out of the cache. -/
theorem hit (beside : Beside clock history task) {row entry : HistoryEntry}
    (filed : Filed clock task.content.contentKey row)
    (found : history.get task.content.contentKey = some row)
    (cached : cachedEntry task (some row) = some entry) :
    Beside clock history { task with stage := .storing entry true } := by
  have queried := (beside.tolerates row found).1
  have same : entry = { row with lastQueriedAt := task.now } := by
    unfold cachedEntry at cached
    obtain ⟨kept, chosen, rfl⟩ := Option.map_eq_some_iff.mp cached
    rw [Option.filter_eq_some_iff] at chosen
    cases chosen.1
    rfl
  refine ⟨beside.started, ?_, ?_, ?_, ?_⟩
  · intro other located
    have equal : other = row := Option.some.inj (located.symm.trans found)
    rw [equal, same]
    exact ⟨queried, Int.le_refl _⟩
  · intro other cacheHit stage
    cases stage
    rw [same]
    exact filed.1
  · intro other cacheHit stage
    cases stage
    rw [same]
    exact ⟨rfl, filed.2.1.trans queried⟩
  · intro _
    dsimp only
    rw [found]
    exact Option.some_ne_none row

/-- The lookup is handed a translation. -/
theorem translated (beside : Beside clock history task)
    (filed : ∀ row, history.get task.content.contentKey = some row →
      row.translation.updatedAt ≤ row.lastQueriedAt) (result : TranslationResult) :
    Beside clock history
      { task with stage := .storing (translatedEntry task result) false } := by
  refine ⟨beside.started, ?_, ?_, ?_, nofun⟩
  · intro row found
    have queried := (beside.tolerates row found).1
    exact ⟨queried, (filed row found).trans queried⟩
  · intro entry cacheHit stage
    cases stage
    rfl
  · intro entry cacheHit stage
    cases stage
    exact ⟨rfl, Int.le_refl _⟩

end Beside

namespace Desktop

theorem execute_database (desktop : Desktop) (operation : ProfileDb → ProfileDb) :
    (desktop.execute operation).database = desktop.database.map operation := by
  unfold database
  rw [execute_active]
  cases chosen : desktop.active with
  | none => rfl
  | some profileId =>
      simp only [Option.bind_some]
      cases found : desktop.profiles.get profileId with
      | none => simp [execute, chosen, found]
      | some db => rw [execute_get chosen found, Option.map_some]

/-- Every row of the active Profile is filed, and every lookup under way is beside it. -/
def Current (desktop : Desktop) : Prop :=
  ∀ db, desktop.database = some db →
    (∀ key row, db.historyEntries.get key = some row → Filed desktop.clock key row) ∧
      ∀ id task, desktop.lookups.get id = some task →
        Beside desktop.clock db.historyEntries task

theorem Current.finish {desktop : Desktop} (current : desktop.Current) (id : Nat) :
    (desktop.finish id).Current := by
  intro db present
  obtain ⟨filed, beside⟩ := current db present
  exact ⟨filed, fun other task found => beside other task (get_finish found).2⟩

theorem Current.moveTo {desktop : Desktop} (current : desktop.Current) {id : Nat}
    {task : LookupTask} {stage : LookupStage}
    (moved : ∀ db, desktop.database = some db →
      Beside desktop.clock db.historyEntries { task with stage := stage }) :
    (desktop.moveTo id task stage).Current := by
  intro db present
  obtain ⟨filed, beside⟩ := current db present
  refine ⟨filed, ?_⟩
  intro other found located
  rcases get_moveTo located with ⟨-, rfl⟩ | ⟨-, before⟩
  · exact moved db present
  · exact beside other found before

end Desktop

/-- A validated entry was translated before it was queried. -/
theorem brought_ordered [ContentTables] {document : PortableDataExport}
    {validated : ValidatedExport} (valid : validateExport document = .ok validated)
    {db : ProfileDb} {entry : HistoryEntry} (member : entry ∈ brought db validated) :
    entry.translation.updatedAt ≤ entry.lastQueriedAt := by
  obtain ⟨-, histories, -, favorites, -⟩ := validateExport_iff.mp valid
  rcases List.mem_append.mp member with listed | derived
  · obtain ⟨value, -, accepted⟩ :=
      Transaction.related_of_mem_right histories entry (List.mem_filter.mp listed).1
    exact validateHistory_ordered accepted
  · obtain ⟨favorite, chosen, rfl⟩ := List.mem_map.mp derived
    obtain ⟨value, -, accepted⟩ :=
      Transaction.related_of_mem_right favorites favorite (List.mem_filter.mp chosen).1
    exact (validateFavorite_dated accepted).le

/-- What an import leaves in a history: the row before, or an entry it brought. -/
theorem applyPortableImport_brought [ContentTables] {document : PortableDataExport}
    {validated : ValidatedExport} (valid : validateExport document = .ok validated)
    (db : ProfileDb) (target : Uuid) (now : Int) (eventIds : ContentKey → Uuid)
    (key : ContentKey) :
    (applyPortableImport db ⟨target, validated⟩ now eventIds).1.historyEntries.get key =
        db.historyEntries.get key ∨
      db.profileMeta.profileId = target ∧ ∃ entry ∈ brought db validated,
        entry.content.contentKey = key ∧
        (applyPortableImport db ⟨target, validated⟩ now eventIds).1.historyEntries.get key =
          some entry ∧
        ∀ old, db.historyEntries.get key = some old → old.lastQueriedAt < entry.lastQueriedAt := by
  by_cases intended : db.profileMeta.profileId = target
  · have keys := (validateExport_iff.mp valid).2.2.2.2.2.2.2.1
    have overtaken := applyPortableImport_overtaken db ⟨target, validated⟩ now eventIds key
      (fun entry => (db.historyEntries.get entry.content.contentKey).all (fun row =>
        row.lastQueriedAt < entry.lastQueriedAt) = true → entry ∈ brought db validated)
      ?_ ?_ keys
    · rcases overtaken with same | ⟨entry, listed, keyed, stored, later⟩
      · exact Or.inl same
      · refine Or.inr ⟨intended, entry, listed ?_, keyed, stored, later⟩
        rw [keyed]
        cases found : db.historyEntries.get key with
        | none => rfl
        | some old => simpa using later old found
    · intro entry member newer
      exact List.mem_append_left _ (List.mem_filter.mpr ⟨member, newer⟩)
    · intro favorite member absent missing _
      refine List.mem_append_right _ (List.mem_map.mpr ⟨favorite, ?_, rfl⟩)
      rw [← keys] at absent
      exact List.mem_filter.mpr ⟨member, decide_eq_true ⟨absent, missing⟩⟩
  · unfold applyPortableImport
    rw [if_pos intended]
    exact Or.inl rfl

/-- The row of a key is left as it was, or replaced by one that is newer in both times and
that every lookup still under way tolerates. -/
def Advances (clock : Int) (remaining : LookupTask → Prop) (key : ContentKey)
    (before after : Option HistoryEntry) : Prop :=
  after = before ∨ ∃ entry, after = some entry ∧ Filed clock key entry ∧
    (∀ old, before = some old → old.translation.updatedAt ≤ entry.translation.updatedAt ∧
      old.lastQueriedAt ≤ entry.lastQueriedAt) ∧
    ∀ task, remaining task → task.content.contentKey = key → Tolerates task entry

/-- The lookups under way but for one. -/
def Desktop.Remaining (desktop : Desktop) (id : Option Nat) (task : LookupTask) : Prop :=
  ∃ other, some other ≠ id ∧ desktop.lookups.get other = some task

namespace Desktop

variable {desktop : Desktop} {db after : ProfileDb}

/-- Where a history advances, its rows stay filed and the remaining lookups beside it. -/
theorem Current.advance (current : desktop.Current) (opened : desktop.database = some db)
    {clock : Int} (later : desktop.clock ≤ clock) {id : Option Nat}
    (advances : ∀ key, Advances clock (desktop.Remaining id) key (db.historyEntries.get key)
      (after.historyEntries.get key)) :
    (∀ key row, after.historyEntries.get key = some row → Filed clock key row) ∧
      ∀ task, desktop.Remaining id task → Beside clock after.historyEntries task := by
  obtain ⟨filed, beside⟩ := current db opened
  constructor
  · intro key row found
    rcases advances key with same | ⟨entry, stored, ordered, -, -⟩
    · exact (filed key row (same ▸ found)).later later
    · rw [stored] at found
      cases found
      exact ordered
  · intro task remains
    obtain ⟨other, differs, located⟩ := remains
    apply ((beside other task located).later later).written
    rcases advances task.content.contentKey with same | ⟨entry, stored, -, -, tolerated⟩
    · exact Or.inl same
    · exact Or.inr ⟨entry, stored, tolerated task ⟨other, differs, located⟩ rfl⟩

theorem Current.stored [ContentTables] (current : desktop.Current)
    (opened : desktop.database = some db) {id : Nat} {task : LookupTask} {entry : HistoryEntry}
    {cacheHit : Bool} (eventId : Uuid) (found : desktop.lookups.get id = some task)
    (stage : task.stage = .storing entry cacheHit)
    (unhurried : Unhurried desktop (.store id eventId)) (key : ContentKey) :
    Advances desktop.clock (desktop.Remaining (some id)) key (db.historyEntries.get key)
      ((recordSuccessfulQuery db entry eventId).1.historyEntries.get key) := by
  obtain ⟨filed, beside⟩ := current db opened
  have holder := beside id task found
  rcases recordSuccessfulQuery_history db entry eventId with failed | recorded
  · rw [failed]
    exact Or.inl rfl
  · rw [recorded, upsertHistory_get]
    split
    · rename_i own
      subst own
      have queried := holder.ordered entry cacheHit stage
      refine Or.inr ⟨entry, rfl, ⟨rfl, ?_, ?_⟩, ?_, ?_⟩
      · rw [queried.1]
        exact queried.2
      · rw [queried.1]
        exact holder.started
      · intro old present
        rw [holder.keyed entry cacheHit stage] at present
        obtain ⟨before, newer⟩ := holder.tolerates old present
        rw [stage] at newer
        rw [queried.1]
        exact ⟨newer, before⟩
      · rintro other ⟨number, differs, located⟩ keyed
        simp only [Unhurried, found, Option.map_some, stage] at unhurried
        refine unhurried (number, other) ((Table.mem_rows_iff _ _ _).mpr located) ?_ keyed
        intro same
        exact differs (congrArg some same)
    · exact Or.inl rfl

theorem Current.imported [ContentTables] (opened : desktop.database = some db)
    {document : PortableDataExport} {validated : ValidatedExport}
    (valid : validateExport document = .ok validated) (target : Uuid) (now : Int)
    (eventIds : ContentKey → Uuid)
    (unhurried : Unhurried desktop (.importData document target now eventIds))
    (key : ContentKey) :
    Advances now (desktop.Remaining none) key (db.historyEntries.get key)
      ((applyPortableImport db ⟨target, validated⟩ now eventIds).1.historyEntries.get key) := by
  rcases applyPortableImport_brought valid db target now eventIds key with
    same | ⟨intended, entry, member, keyed, stored, later⟩
  · exact Or.inl same
  · simp only [Unhurried, valid, opened] at unhurried
    obtain ⟨past, newer, tolerated⟩ := unhurried intended entry member
    refine Or.inr ⟨entry, stored, ⟨keyed, brought_ordered valid member, past⟩, ?_, ?_⟩
    · intro old present
      rw [keyed, present] at newer
      exact ⟨by simpa using newer, (later old present).le⟩
    · rintro task ⟨number, -, located⟩ same
      exact tolerated (number, task) ((Table.mem_rows_iff _ _ _).mpr located)
        (same.trans keyed.symm)

end Desktop

section Steps

variable [ContentTables] {desktop next : Desktop} {action : DesktopStep}

theorem Desktop.Current.step (current : desktop.Current) (unhurried : Unhurried desktop action)
    (taken : desktop.step action = some next) : next.Current := by
  cases Desktop.step_turn taken with
  | started id content targetLang mode now stage absent later begins =>
      intro db opened
      obtain ⟨filed, beside⟩ := current db opened
      refine ⟨fun key row found => (filed key row found).later later, ?_⟩
      intro other task found
      dsimp only at found
      rw [Table.get_put] at found
      split at found
      · cases found
        apply Beside.waiting (Int.le_refl _) begins
        intro row located
        exact (filed _ row located).2.2.trans later
      · exact (beside other task found).later later
  | ended id action mine => exact current.finish id
  | cached id task db entry found stage present hit =>
      apply current.moveTo
      intro other opened
      cases present.symm.trans opened
      obtain ⟨filed, beside⟩ := current db present
      unfold history at hit
      cases located : db.historyEntries.get task.content.contentKey with
      | none =>
          rw [located] at hit
          cases hit
      | some row =>
          rw [located] at hit
          exact (beside id task found).hit (filed _ row located) located hit
  | missed id task found stage =>
      apply current.moveTo
      intro db opened
      exact ((current db opened).2 id task found).translating
  | translated id task result found stage =>
      apply current.moveTo
      intro db opened
      obtain ⟨filed, beside⟩ := current db opened
      exact (beside id task found).translated (fun row located => (filed _ row located).2.1) result
  | stored id task entry cacheHit eventId found stage =>
      intro after opened
      have moved : (desktop.execute (fun db =>
          (recordSuccessfulQuery db entry eventId).1)).database = some after := opened
      rw [Desktop.execute_database] at moved
      obtain ⟨db, present, rfl⟩ := Option.map_eq_some_iff.mp moved
      obtain ⟨filed, beside⟩ := current.advance present (Int.le_refl _)
        (current.stored present eventId found stage unhurried)
      unfold Desktop.store
      have clock : ((desktop.execute (fun db =>
          (recordSuccessfulQuery db entry eventId).1)).finish id).clock = desktop.clock :=
        desktop.execute_clock _
      rw [clock]
      refine ⟨filed, ?_⟩
      intro other task located
      obtain ⟨differs, before⟩ := Desktop.get_finish located
      rw [Desktop.execute_lookups] at before
      exact beside task ⟨other, fun same => differs (Option.some.inj same), before⟩
  | switched metadata => exact unhurried.elim
  | cleared =>
      intro after opened
      rw [Desktop.execute_database] at opened
      obtain ⟨db, present, rfl⟩ := Option.map_eq_some_iff.mp opened
      constructor
      · intro key row found
        cases found
      · intro id task located
        rw [Desktop.execute_lookups] at located
        rw [Desktop.execute_clock]
        exact ((current db present).2 id task located).cleared
          (unhurried (id, task) ((Table.mem_rows_iff _ _ _).mpr located))
  | refused document target now eventIds later =>
      intro db opened
      obtain ⟨filed, beside⟩ := current db opened
      exact ⟨fun key row found => (filed key row found).later later,
        fun id task found => (beside id task found).later later⟩
  | imported document target now eventIds validated later valid =>
      intro after opened
      rw [Desktop.execute_database] at opened
      obtain ⟨db, present, rfl⟩ := Option.map_eq_some_iff.mp opened
      obtain ⟨filed, beside⟩ := current.advance present later
        (Desktop.Current.imported present valid target now eventIds unhurried)
      rw [Desktop.execute_clock]
      refine ⟨filed, ?_⟩
      intro id task located
      rw [Desktop.execute_lookups] at located
      exact beside task ⟨id, by rintro ⟨⟩, located⟩

/-- A step never takes a row back, and a lookup that only hit the cache finds its row. -/
theorem Desktop.Current.keeps_rows (current : desktop.Current)
    (unhurried : Unhurried desktop action) (taken : desktop.step action = some next)
    {db after : ProfileDb} (opened : desktop.database = some db)
    (moved : next.database = some after) (key : ContentKey) (old new : HistoryEntry)
    (before : db.historyEntries.get key = some old)
    (found : after.historyEntries.get key = some new) :
    old.translation.updatedAt ≤ new.translation.updatedAt ∧
      old.lastQueriedAt ≤ new.lastQueriedAt := by
  have unmoved : after = db → old.translation.updatedAt ≤ new.translation.updatedAt ∧
      old.lastQueriedAt ≤ new.lastQueriedAt := by
    rintro rfl
    cases before.symm.trans found
    exact ⟨Int.le_refl _, Int.le_refl _⟩
  have advanced : ∀ {clock : Int} {remaining : LookupTask → Prop},
      Advances clock remaining key (db.historyEntries.get key) (after.historyEntries.get key) →
      old.translation.updatedAt ≤ new.translation.updatedAt ∧
        old.lastQueriedAt ≤ new.lastQueriedAt := by
    intro clock remaining advances
    rcases advances with same | ⟨entry, stored, -, newer, -⟩
    · rw [before, found] at same
      cases same
      exact ⟨Int.le_refl _, Int.le_refl _⟩
    · rw [found] at stored
      cases stored
      exact newer old before
  cases Desktop.step_turn taken with
  | started id content targetLang mode now stage absent later begins =>
      exact unmoved (Option.some.inj (moved.symm.trans opened))
  | ended id action mine => exact unmoved (Option.some.inj (moved.symm.trans opened))
  | cached id task db entry found stage present hit =>
      exact unmoved (Option.some.inj (moved.symm.trans opened))
  | missed id task found stage => exact unmoved (Option.some.inj (moved.symm.trans opened))
  | translated id task result found stage =>
      exact unmoved (Option.some.inj (moved.symm.trans opened))
  | stored id task entry cacheHit eventId running stage =>
      have written : (desktop.execute (fun db =>
          (recordSuccessfulQuery db entry eventId).1)).database = some after := moved
      rw [Desktop.execute_database, opened] at written
      cases written
      exact advanced (current.stored opened eventId running stage unhurried key)
  | switched metadata => exact unhurried.elim
  | cleared =>
      rw [Desktop.execute_database, opened] at moved
      cases moved
      cases found
  | refused document target now eventIds later =>
      exact unmoved (Option.some.inj (moved.symm.trans opened))
  | imported document target now eventIds validated later valid =>
      have written := moved
      rw [Desktop.execute_database, show ({ desktop with clock := now } : Desktop).database =
        some db from opened] at written
      cases written
      exact advanced (Desktop.Current.imported opened valid target now eventIds unhurried key)

end Steps

section NoLostRefresh

variable [ContentTables]

/-- In every interleaving of lookups, clears and imports of one Profile in which no write
overtakes a lookup under way, no row is taken back to an older translation or an earlier
query, and no lookup that only hit the cache brings back a row that was cleared. -/
theorem refreshes_are_kept {first last : Desktop} (idle : first.lookups = Table.empty)
    (filed : ∀ db, first.database = some db → ∀ key row,
      db.historyEntries.get key = some row → Filed first.clock key row)
    {actions : List DesktopStep} (settled : Meets Desktop.step Unhurried first actions)
    (reached : run Desktop.step first actions = some last) {action : DesktopStep}
    (unhurried : Unhurried last action) {next : Desktop} (taken : last.step action = some next)
    {db after : ProfileDb} (opened : last.database = some db)
    (moved : next.database = some after) :
    (∀ key old new, db.historyEntries.get key = some old →
      after.historyEntries.get key = some new →
      old.translation.updatedAt ≤ new.translation.updatedAt ∧
        old.lastQueriedAt ≤ new.lastQueriedAt) ∧
      ∀ id eventId task entry, action = .store id eventId → last.lookups.get id = some task →
        task.stage = .storing entry true →
        db.historyEntries.get entry.content.contentKey ≠ none := by
  have starts : first.Current := by
    intro db opened
    refine ⟨filed db opened, ?_⟩
    intro id task found
    rw [idle, Table.get_empty] at found
    cases found
  have current : last.Current := run_keeps_of_meets
    (fun _ _ _ holds meets taken => Desktop.Current.step holds meets taken)
    actions first last starts settled reached
  constructor
  · exact current.keeps_rows unhurried taken opened moved
  · intro id eventId task entry _ running stage
    have beside := (current db opened).2 id task running
    rw [beside.keyed entry true stage]
    apply beside.present
    unfold LookupTask.holdsCached
    rw [stage]

end NoLostRefresh

namespace Sample

def refreshed : TranslationResult := ⟨"礼物；天赋", "tokenhub"⟩

/-- The content is looked up once and stored. -/
def known : List DesktopStep :=
  [lookUp 0 .useCache 100, .readCache 0, .translate 0 (some present),
    .store 0 (System.Sample.eventId 3)]

/-- A refresh is stored while another lookup holds the row it read from the cache. -/
def overtaken : List DesktopStep :=
  known ++ [lookUp 1 .useCache 110, .readCache 1, lookUp 2 .refresh 120,
    .translate 2 (some refreshed), .store 2 (System.Sample.eventId 4)]

/-- A refresh is started and stored after the lookup from the cache. -/
def refreshedInTurn : List DesktopStep :=
  known ++ [lookUp 1 .useCache 110, .readCache 1, .store 1 (System.Sample.eventId 4),
    lookUp 2 .refresh 120, .translate 2 (some refreshed)]

/-- The history is cleared while a lookup holds a row of it. -/
def clearedEarly : List DesktopStep :=
  known ++ [lookUp 1 .useCache 110, .readCache 1, .clearHistory]

def row (desktop : Desktop) : Option HistoryEntry :=
  desktop.database.bind (fun db => db.historyEntries.get System.Sample.giftKey)

end Sample

section Witness

attribute [local instance] System.Sample.tables

/-- The lookup from the cache writes the row back over the refresh, and brings it back after
the clear. -/
theorem refresh_is_lost :
    (∃ last next old new, run Desktop.step Sample.desktop Sample.overtaken = some last ∧
      last.step (.store 1 (System.Sample.eventId 5)) = some next ∧
      Sample.row last = some old ∧ Sample.row next = some new ∧
      new.translation.updatedAt < old.translation.updatedAt ∧
      new.lastQueriedAt < old.lastQueriedAt) ∧
    ∃ last next, run Desktop.step Sample.desktop Sample.clearedEarly = some last ∧
      last.step (.store 1 (System.Sample.eventId 5)) = some next ∧
      Sample.row last = none ∧ (Sample.row next).isSome = true := by
  have rewritten : (run Desktop.step Sample.desktop Sample.overtaken).any (fun last =>
      (last.step (.store 1 (System.Sample.eventId 5))).any (fun next =>
        (Sample.row last).any (fun old => (Sample.row next).any (fun new =>
          new.translation.updatedAt < old.translation.updatedAt ∧
            new.lastQueriedAt < old.lastQueriedAt)))) = true := by
    decide
  have restored : (run Desktop.step Sample.desktop Sample.clearedEarly).any (fun last =>
      (last.step (.store 1 (System.Sample.eventId 5))).any (fun next =>
        Sample.row last = none ∧ (Sample.row next).isSome)) = true := by
    decide
  constructor
  · obtain ⟨last, reached, afterRun⟩ := (Option.any_eq_true _ _).mp rewritten
    obtain ⟨next, taken, afterStep⟩ := (Option.any_eq_true _ _).mp afterRun
    obtain ⟨old, before, afterOld⟩ := (Option.any_eq_true _ _).mp afterStep
    obtain ⟨new, found, older⟩ := (Option.any_eq_true _ _).mp afterOld
    exact ⟨last, next, old, new, reached, taken, before, found, of_decide_eq_true older⟩
  · obtain ⟨last, reached, afterRun⟩ := (Option.any_eq_true _ _).mp restored
    obtain ⟨next, taken, back⟩ := (Option.any_eq_true _ _).mp afterRun
    exact ⟨last, next, reached, taken, of_decide_eq_true back⟩

theorem refreshes_are_kept_in_turn : ∃ last next old new,
    run Desktop.step Sample.desktop Sample.refreshedInTurn = some last ∧
    last.step (.store 2 (System.Sample.eventId 5)) = some next ∧
    Sample.row last = some old ∧ Sample.row next = some new ∧
    old.translation.updatedAt ≤ new.translation.updatedAt ∧
    old.lastQueriedAt ≤ new.lastQueriedAt := by
  have facts : (run Desktop.step Sample.desktop Sample.refreshedInTurn).any (fun last =>
      Unhurried last (.store 2 (System.Sample.eventId 5)) ∧ (Sample.row last).isSome ∧
        (last.step (.store 2 (System.Sample.eventId 5))).any (fun next =>
          (Sample.row next).isSome)) = true := by
    decide
  have settled : Meets Desktop.step Unhurried Sample.desktop Sample.refreshedInTurn := by
    decide
  obtain ⟨last, reached, holds⟩ := (Option.any_eq_true _ _).mp facts
  obtain ⟨unhurried, stored, afterRun⟩ := of_decide_eq_true holds
  obtain ⟨next, taken, kept⟩ := (Option.any_eq_true _ _).mp afterRun
  obtain ⟨old, before⟩ := Option.isSome_iff_exists.mp stored
  obtain ⟨new, found⟩ := Option.isSome_iff_exists.mp kept
  obtain ⟨db, opened, located⟩ := Option.bind_eq_some_iff.mp before
  obtain ⟨after, moved, replaced⟩ := Option.bind_eq_some_iff.mp found
  have filed : ∀ db, Sample.desktop.database = some db → ∀ key row,
      db.historyEntries.get key = some row → Filed Sample.desktop.clock key row := by
    intro db present key row stored
    have fresh : db = ProfileDb.initial Sample.firstProfile "desk" 50 := by
      have same : Sample.desktop.database =
          some (ProfileDb.initial Sample.firstProfile "desk" 50) := by
        decide
      exact Option.some.inj (present.symm.trans same)
    rw [fresh] at stored
    cases stored
  exact ⟨last, next, old, new, reached, taken, before, found,
    (refreshes_are_kept rfl filed settled reached unhurried taken opened moved).1 _ old new
      located replaced⟩

end Witness

end Lvos.System.Lookup
