import Lvos.Lib.Rename
import Lvos.Storage.Aggregates
import Lvos.Storage.Metadata

set_option autoImplicit false

namespace Lvos.Storage

open Lvos.Core Lvos.Sync
open Relational (Table)
open Transaction (bind_ok_iff)

/-- The row of `sync_outbox` under its new key. Only statistics name the Device. -/
def refiled (deviceId : String) (now : Int) (entry : CoalesceKey × OutboxRow) :
    CoalesceKey × OutboxRow :=
  if entry.2.operation = .queryStatsUpsert then
    (queryStatsCoalesceKey entry.2.contentKey deviceId, { entry.2 with updatedAt := now })
  else entry

def refileOutbox (db : ProfileDb) (deviceId : String) (now : Int) : StorageResult ProfileDb :=
  match db.syncOutbox.rename (refiled deviceId now) with
  | none => .error .sqlite
  | some table => .ok { db with syncOutbox := table }

/-- The counts a new Device starts with: what the server does not have yet. -/
def unsynced (stats : QueryStats) : QueryStats :=
  { stats with
    deviceQueryCount := stats.deviceQueryCount - stats.lastSyncedDeviceQueryCount
    lastSyncedDeviceQueryCount := 0 }

/-- The `UPDATE query_stats`; the `CHECK` refuses a count below zero. -/
def resetCounts (db : ProfileDb) : StorageResult ProfileDb :=
  if db.queryStats.rows.any (fun entry =>
      entry.2.deviceQueryCount < entry.2.lastSyncedDeviceQueryCount) then .error .sqlite
  else .ok { db with queryStats := db.queryStats.update (fun _ _ => true) unsynced }

def replaceDeviceBody (expectedCurrent replacement : Uuid) (now : Int) (db : ProfileDb) :
    StorageResult (ProfileDb × Unit) := do
  if db.profileMeta.deviceId ≠ expectedCurrent.text then
    .error (.invalidData "Profile Device identity does not match")
  else
    let db := { db with profileMeta := { db.profileMeta with
      deviceId := replacement.text
      updatedAt := now } }
    let db ← refileOutbox db replacement.text now
    let db ← resetCounts db
    .ok (db, ())

/-- Gives the Profile a new Device and keeps what the old one has not synchronized. -/
def replaceDeviceIdentity (db : ProfileDb) (expectedCurrent replacement : Uuid) (now : Int) :
    ProfileDb × StorageResult Unit :=
  if isNil expectedCurrent ∨ isNil replacement ∨ expectedCurrent = replacement then
    (db, .error (.invalidIdentifier "device"))
  else Transaction.atomically (replaceDeviceBody expectedCurrent replacement now) db

/-- The watermark of a content is not ahead of the Device's own count. -/
def Watermarked (stats : QueryStats) : Prop :=
  stats.lastSyncedDeviceQueryCount ≤ stats.deviceQueryCount

/-- What a replacement that commits does to the tables. -/
structure Replaced (db next : ProfileDb) (expectedCurrent replacement : Uuid) (now : Int) :
    Prop where
  current : db.profileMeta.deviceId = expectedCurrent.text
  watermarked : ∀ key stats, db.queryStats.get key = some stats → Watermarked stats
  profileMeta : next.profileMeta =
    { db.profileMeta with deviceId := replacement.text, updatedAt := now }
  historyEntries : next.historyEntries = db.historyEntries
  favorites : next.favorites = db.favorites
  queryStats : next.queryStats = db.queryStats.update (fun _ _ => true) unsynced
  outbox : next.syncOutbox.rows = db.syncOutbox.rows.map (refiled replacement.text now)

section Replacement

variable {db next : ProfileDb} {expectedCurrent replacement : Uuid} {now : Int}

theorem replaceDeviceBody_ok
    (success : replaceDeviceBody expectedCurrent replacement now db = .ok (next, ())) :
    Replaced db next expectedCurrent replacement now := by
  unfold replaceDeviceBody at success
  split at success
  · cases success
  · rename_i current
    dsimp only at success
    obtain ⟨filed, outbox, afterOutbox⟩ := bind_ok_iff.mp success
    obtain ⟨counted, stats, same⟩ := bind_ok_iff.mp afterOutbox
    cases same
    unfold refileOutbox at outbox
    split at outbox
    · cases outbox
    · rename_i table renamed
      cases outbox
      unfold resetCounts at stats
      split at stats
      · cases stats
      · rename_i ordered
        cases stats
        refine ⟨not_not.mp current, ?_, rfl, rfl, rfl, rfl, Table.rename_rows renamed⟩
        intro key row stored
        by_contra ahead
        apply ordered
        rw [List.any_eq_true]
        refine ⟨(key, row), (Table.mem_rows_iff _ _ _).mpr stored, ?_⟩
        simpa [Watermarked] using ahead

/-- A replacement leaves every table alone or is what `Replaced` says. -/
theorem replaceDeviceIdentity_cases (db : ProfileDb) (expectedCurrent replacement : Uuid)
    (now : Int) :
    (∃ reason, replaceDeviceIdentity db expectedCurrent replacement now = (db, .error reason)) ∨
      ∃ next, replaceDeviceIdentity db expectedCurrent replacement now = (next, .ok ()) ∧
        Replaced db next expectedCurrent replacement now := by
  unfold replaceDeviceIdentity
  split
  · exact Or.inl ⟨_, rfl⟩
  · cases body : replaceDeviceBody expectedCurrent replacement now db with
    | error reason => exact Or.inl ⟨reason, Transaction.atomically_of_error body⟩
    | ok pair =>
        obtain ⟨next, ⟨⟩⟩ := pair
        exact Or.inr ⟨next, Transaction.atomically_of_ok body, replaceDeviceBody_ok body⟩

/-- What every committed replacement keeps. -/
theorem replaceDeviceIdentity_keeps {P : ProfileDb → Prop} (db : ProfileDb)
    (expectedCurrent replacement : Uuid) (now : Int) (holds : P db)
    (kept : ∀ next, Replaced db next expectedCurrent replacement now → P next) :
    P (replaceDeviceIdentity db expectedCurrent replacement now).1 := by
  rcases replaceDeviceIdentity_cases db expectedCurrent replacement now with
    ⟨reason, same⟩ | ⟨next, same, replaced⟩
  · rw [same]
    exact holds
  · rw [same]
    exact kept next replaced

theorem replaceDeviceIdentity_frame (db : ProfileDb) (expectedCurrent replacement : Uuid)
    (now : Int) :
    (replaceDeviceIdentity db expectedCurrent replacement now).1.historyEntries =
        db.historyEntries ∧
      (replaceDeviceIdentity db expectedCurrent replacement now).1.favorites = db.favorites := by
  rcases replaceDeviceIdentity_cases db expectedCurrent replacement now with
    ⟨reason, same⟩ | ⟨next, same, replaced⟩
  · rw [same]
    exact ⟨rfl, rfl⟩
  · rw [same]
    exact ⟨replaced.historyEntries, replaced.favorites⟩

theorem Replaced.stats_get (replaced : Replaced db next expectedCurrent replacement now)
    (key : ContentKey) : next.queryStats.get key = (db.queryStats.get key).map unsynced := by
  rw [replaced.queryStats, Table.get_update]
  simp

theorem Replaced.outbox_get (replaced : Replaced db next expectedCurrent replacement now)
    {coalesceKey : CoalesceKey} {row : OutboxRow}
    (stored : next.syncOutbox.get coalesceKey = some row) :
    ∃ old before, db.syncOutbox.get old = some before ∧
      refiled replacement.text now (old, before) = (coalesceKey, row) := by
  have member := (Table.mem_rows_iff _ _ _).mpr stored
  rw [replaced.outbox] at member
  obtain ⟨⟨old, before⟩, listed, same⟩ := List.mem_map.mp member
  exact ⟨old, before, (Table.mem_rows_iff _ _ _).mp listed, same⟩

theorem refiled_row {deviceId : String} {old coalesceKey : CoalesceKey} {before row : OutboxRow}
    (same : refiled deviceId now (old, before) = (coalesceKey, row)) :
    row.eventId = before.eventId ∧ row.contentKey = before.contentKey ∧
      row.operation = before.operation ∧ row.baseEntityRevision = before.baseEntityRevision := by
  unfold refiled at same
  split at same
  · cases same
    exact ⟨rfl, rfl, rfl, rfl⟩
  · cases same
    exact ⟨rfl, rfl, rfl, rfl⟩

/-- Where the rows of a Profile are filed afterwards. -/
theorem Replaced.filed (indexed : Indexed db)
    (replaced : Replaced db next expectedCurrent replacement now) {coalesceKey : CoalesceKey}
    {row : OutboxRow} (stored : next.syncOutbox.get coalesceKey = some row) :
    (∃ key, coalesceKey = .favorite key ∧ db.syncOutbox.get (.favorite key) = some row) ∨
      ∃ deviceId key before, coalesceKey = .queryStats replacement.text key ∧
        db.syncOutbox.get (.queryStats deviceId key) = some before ∧
        row = { before with updatedAt := now } := by
  obtain ⟨old, before, here, same⟩ := replaced.outbox_get stored
  cases old with
  | favorite key =>
      left
      have kept : before.operation ≠ .queryStatsUpsert := by
        intro stats
        have favorite := (indexed.favorites key before here).2.1
        rw [stats] at favorite
        cases favorite
      unfold refiled at same
      rw [if_neg kept] at same
      cases same
      exact ⟨key, rfl, here⟩
  | queryStats deviceId key =>
      right
      obtain ⟨contentKey, operation, -⟩ := indexed.stats deviceId key before here
      unfold refiled at same
      rw [if_pos operation] at same
      cases same
      refine ⟨deviceId, key, before, ?_, here, rfl⟩
      rw [contentKey]
      rfl

theorem Replaced.favorite_get (indexed : Indexed db)
    (replaced : Replaced db next expectedCurrent replacement now) {key : ContentKey}
    {row : OutboxRow} (stored : next.syncOutbox.get (.favorite key) = some row) :
    db.syncOutbox.get (.favorite key) = some row := by
  rcases replaced.filed indexed stored with ⟨other, same, here⟩ | ⟨_, _, _, impossible, -, -⟩
  · cases same
    exact here
  · cases impossible

/-- The statistics of every Device are filed under the new identity. -/
theorem Replaced.report_get (indexed : Indexed db)
    (replaced : Replaced db next expectedCurrent replacement now) {deviceId : String}
    {key : ContentKey} {row : OutboxRow}
    (stored : next.syncOutbox.get (.queryStats deviceId key) = some row) :
    deviceId = replacement.text ∧ ∃ before old,
      db.syncOutbox.get (.queryStats before key) = some old ∧
      row = { old with updatedAt := now } := by
  rcases replaced.filed indexed stored with
    ⟨other, impossible, -⟩ | ⟨before, other, old, same, here, written⟩
  · cases impossible
  · cases same
    exact ⟨rfl, before, old, here, written⟩

theorem Indexed.replaced (indexed : Indexed db)
    (replaced : Replaced db next expectedCurrent replacement now) : Indexed next where
  favorites := by
    intro key row stored
    rw [replaced.favorites]
    exact indexed.favorites key row (replaced.favorite_get indexed stored)
  stats := by
    intro deviceId key row stored
    rw [replaced.favorites]
    obtain ⟨-, before, old, here, rfl⟩ := replaced.report_get indexed stored
    exact indexed.stats before key old here

theorem Shape.replaced {issued : List Uuid} (shape : Shape issued db)
    (replaced : Replaced db next expectedCurrent replacement now) : Shape issued next where
  favorites := by
    intro key row stored
    rw [replaced.favorites]
    exact shape.favorites key row (replaced.favorite_get shape.indexed stored)
  stats := by
    intro deviceId key row stored
    rw [replaced.favorites]
    obtain ⟨-, before, old, here, rfl⟩ := replaced.report_get shape.indexed stored
    obtain ⟨contentKey, operation, base, present⟩ := shape.stats before key old here
    exact ⟨contentKey, operation, base, present⟩
  issued := by
    intro coalesceKey row stored
    obtain ⟨old, before, here, same⟩ := replaced.outbox_get stored
    rw [(refiled_row same).1]
    exact shape.issued old before here
  unique := by
    intro first second row other here there same
    obtain ⟨old, before, oldHere, refiledHere⟩ := replaced.outbox_get here
    obtain ⟨older, earlier, oldThere, refiledThere⟩ := replaced.outbox_get there
    have ids : before.eventId = earlier.eventId := by
      rw [← (refiled_row refiledHere).1, ← (refiled_row refiledThere).1]
      exact same
    have keys := shape.unique old older before earlier oldHere oldThere ids
    subst keys
    rw [oldHere] at oldThere
    cases oldThere
    rw [refiledHere] at refiledThere
    exact congrArg Prod.fst refiledThere

theorem OwnStats.replaced (indexed : Indexed db)
    (replaced : Replaced db next expectedCurrent replacement now) : OwnStats next := by
  intro deviceId key row stored
  rw [replaced.profileMeta]
  exact (replaced.report_get indexed stored).1

/-- Where `refiled` puts the rows of a Profile whose statistics are all of one Device. -/
theorem refiled_cases (indexed : Indexed db) (own : OwnStats db)
    (deviceId : String) (now : Int) {entry : CoalesceKey × OutboxRow}
    (member : entry ∈ db.syncOutbox.rows) :
    refiled deviceId now entry = entry ∨
      ∃ key, entry.1 = .queryStats db.profileMeta.deviceId key ∧
        (refiled deviceId now entry).1 = .queryStats deviceId key := by
  obtain ⟨coalesceKey, row⟩ := entry
  have stored := (Table.mem_rows_iff _ _ _).mp member
  unfold refiled
  cases coalesceKey with
  | favorite key =>
      left
      rw [if_neg]
      intro stats
      have favorite := (indexed.favorites key row stored).2.1
      rw [stats] at favorite
      cases favorite
  | queryStats filedUnder key =>
      right
      obtain ⟨contentKey, operation, -⟩ := indexed.stats filedUnder key row stored
      refine ⟨key, ?_, ?_⟩
      · rw [own filedUnder key row stored]
      · rw [if_pos operation, contentKey]
        rfl

/-- No row of another Device is in the way of a new key. -/
theorem refileOutbox_total (indexed : Indexed db) (own : OwnStats db)
    {deviceId : String} (apart : db.profileMeta.deviceId ≠ deviceId) (now : Int) :
    ∃ table, db.syncOutbox.rename (refiled deviceId now) = some table := by
  have untaken : ∀ key, CoalesceKey.queryStats deviceId key ∉
      db.syncOutbox.rows.map Prod.fst := by
    intro key taken
    obtain ⟨⟨coalesceKey, row⟩, member, same⟩ := List.mem_map.mp taken
    cases same
    exact apart (own deviceId key row ((Table.mem_rows_iff _ _ _).mp member)).symm
  have alone : ∀ first ∈ db.syncOutbox.rows, ∀ second ∈ db.syncOutbox.rows,
      first.1 = second.1 → first = second := by
    rintro ⟨coalesceKey, row⟩ here ⟨other, entry⟩ there same
    cases same
    have stored := (Table.mem_rows_iff _ _ _).mp here
    rw [(Table.mem_rows_iff _ _ _).mp there] at stored
    cases stored
    rfl
  apply Table.rename_total
  · rw [List.map_map]
    refine List.Nodup.map_on ?_ (List.Nodup.of_map Prod.fst db.syncOutbox.unique)
    intro first here second there same
    rw [Function.comp_apply, Function.comp_apply] at same
    rcases refiled_cases indexed own deviceId now here with kept | ⟨key, old, moved⟩
    · rcases refiled_cases indexed own deviceId now there with stays | ⟨other, -, taken⟩
      · rw [kept, stays] at same
        exact alone first here second there same
      · rw [kept, taken] at same
        exact absurd (same ▸ List.mem_map_of_mem here) (untaken other)
    · rcases refiled_cases indexed own deviceId now there with stays | ⟨other, older, taken⟩
      · rw [moved, stays] at same
        exact absurd (same ▸ List.mem_map_of_mem there) (untaken key)
      · rw [moved, taken] at same
        cases same
        exact alone first here second there (old.trans older.symm)
  · intro entry member
    rcases refiled_cases indexed own deviceId now member with kept | ⟨key, -, moved⟩
    · exact Or.inl (congrArg Prod.fst kept)
    · rw [moved]
      exact Or.inr (untaken key)

theorem replaceDeviceIdentity_total (indexed : Indexed db)
    (own : OwnStats db) (current : db.profileMeta.deviceId = expectedCurrent.text)
    (known : isNil expectedCurrent = false) (valid : isNil replacement = false)
    (apart : expectedCurrent ≠ replacement)
    (watermarked : ∀ key stats, db.queryStats.get key = some stats → Watermarked stats)
    (now : Int) :
    ∃ next, replaceDeviceIdentity db expectedCurrent replacement now = (next, .ok ()) := by
  have names : db.profileMeta.deviceId ≠ replacement.text := by
    rw [current]
    exact fun same => apart (Uuid.text_injective same)
  obtain ⟨table, renamed⟩ := refileOutbox_total indexed own names now
  have counted : db.queryStats.rows.any (fun entry =>
      entry.2.deviceQueryCount < entry.2.lastSyncedDeviceQueryCount) = false := by
    rw [List.any_eq_false]
    rintro ⟨key, stats⟩ member
    have ordered := watermarked key stats ((Table.mem_rows_iff _ _ _).mp member)
    simpa [Watermarked] using ordered
  have body : replaceDeviceBody expectedCurrent replacement now db = .ok ({ db with
      profileMeta := { db.profileMeta with deviceId := replacement.text, updatedAt := now }
      syncOutbox := table
      queryStats := db.queryStats.update (fun _ _ => true) unsynced }, ()) := by
    unfold replaceDeviceBody refileOutbox resetCounts
    simp only [current, renamed, counted, ne_eq, not_true_eq_false, ↓reduceIte, bind,
      Except.bind, Bool.false_eq_true]
  unfold replaceDeviceIdentity
  rw [if_neg (by simp [known, valid, apart])]
  exact ⟨_, Transaction.atomically_of_ok body⟩

end Replacement

section Undone

/-- An Outbox entry without the time it was last written. -/
def undated (entry : CoalesceKey × OutboxRow) : CoalesceKey × OutboxRow :=
  (entry.1, { entry.2 with updatedAt := 0 })

/-- The Device, the counts and the Outbox are as before, `updated_at` aside. -/
structure Unaltered (db next : ProfileDb) : Prop where
  deviceId : next.profileMeta.deviceId = db.profileMeta.deviceId
  queryStats : next.queryStats = db.queryStats
  outbox : next.syncOutbox.rows.map undated = db.syncOutbox.rows.map undated

theorem Unaltered.refl (db : ProfileDb) : Unaltered db db := ⟨rfl, rfl, rfl⟩

/-- Nothing has been synchronized under the Device, and its statistics are filed under it. -/
structure Restorable (db : ProfileDb) : Prop where
  unreported : ∀ key stats, db.queryStats.get key = some stats →
    stats.lastSyncedDeviceQueryCount = 0
  filed : ∀ coalesceKey row, db.syncOutbox.get coalesceKey = some row →
    row.operation = .queryStatsUpsert →
    coalesceKey = .queryStats db.profileMeta.deviceId row.contentKey

instance (db : ProfileDb) : Decidable (Restorable db) :=
  decidable_of_iff ((∀ entry ∈ db.queryStats.rows, entry.2.lastSyncedDeviceQueryCount = 0) ∧
    ∀ entry ∈ db.syncOutbox.rows, entry.2.operation = .queryStatsUpsert →
      entry.1 = .queryStats db.profileMeta.deviceId entry.2.contentKey) (by
    constructor
    · rintro ⟨unreported, filed⟩
      exact ⟨fun key stats stored => unreported _ ((Table.mem_rows_iff _ _ _).mpr stored),
        fun coalesceKey row stored => filed _ ((Table.mem_rows_iff _ _ _).mpr stored)⟩
    · rintro ⟨unreported, filed⟩
      exact ⟨fun entry member => unreported entry.1 entry.2 ((Table.mem_rows_iff _ _ _).mp member),
        fun entry member => filed entry.1 entry.2 ((Table.mem_rows_iff _ _ _).mp member)⟩)

/-- A Profile files its statistics under its own Device, so only the watermarks matter. -/
theorem restorable_iff {issued : List Uuid} {db : ProfileDb} (shape : Shape issued db)
    (own : OwnStats db) : Restorable db ↔
      ∀ key stats, db.queryStats.get key = some stats → stats.lastSyncedDeviceQueryCount = 0 := by
  refine ⟨Restorable.unreported, fun unreported => ⟨unreported, ?_⟩⟩
  intro coalesceKey row stored operation
  cases coalesceKey with
  | favorite key =>
      have favorite := (shape.favorites key row stored).operation
      rw [operation] at favorite
      cases favorite
  | queryStats deviceId key =>
      rw [own deviceId key row stored, (shape.stats deviceId key row stored).contentKey]

theorem unsynced_unsynced_iff (stats : QueryStats) :
    unsynced (unsynced stats) = stats ↔ stats.lastSyncedDeviceQueryCount = 0 := by
  constructor
  · intro same
    exact (congrArg QueryStats.lastSyncedDeviceQueryCount same).symm
  · intro unreported
    obtain ⟨count, first, last, synced, total, serverFirst, serverLast, snapshot⟩ := stats
    cases unreported
    rfl

theorem undated_refiled_iff (current replacement : String) (now later : Int)
    (entry : CoalesceKey × OutboxRow) :
    undated (refiled current later (refiled replacement now entry)) = undated entry ↔
      (entry.2.operation = .queryStatsUpsert →
        entry.1 = .queryStats current entry.2.contentKey) := by
  by_cases stats : entry.2.operation = .queryStatsUpsert
  · simp [refiled, stats, undated, queryStatsCoalesceKey, eq_comm]
  · simp [refiled, stats]

/-- Replaced and replaced back: the counts the server had are taken off for good. -/
theorem Replaced.unaltered_iff {db middle next : ProfileDb} {current replacement : Uuid}
    {now later : Int} (replaced : Replaced db middle current replacement now)
    (undone : Replaced middle next replacement current later) :
    Unaltered db next ↔ Restorable db := by
  have counts : next.queryStats = db.queryStats ↔ ∀ key stats,
      db.queryStats.get key = some stats → stats.lastSyncedDeviceQueryCount = 0 := by
    constructor
    · intro same key stats stored
      have twice := undone.stats_get key
      rw [replaced.stats_get, same, stored] at twice
      exact (unsynced_unsynced_iff stats).mp (Option.some.inj twice).symm
    · intro unreported
      rw [undone.queryStats, replaced.queryStats]
      apply Table.ext
      simp only [Table.update, ↓reduceIte, List.map_map]
      conv_rhs => rw [← List.map_id db.queryStats.rows]
      apply List.map_congr_left
      rintro ⟨key, stats⟩ member
      have zero := unreported key stats ((Table.mem_rows_iff _ _ _).mp member)
      simp [(unsynced_unsynced_iff stats).mpr zero]
  have outbox : next.syncOutbox.rows.map undated = db.syncOutbox.rows.map undated ↔
      ∀ coalesceKey row, db.syncOutbox.get coalesceKey = some row →
        row.operation = .queryStatsUpsert →
        coalesceKey = .queryStats db.profileMeta.deviceId row.contentKey := by
    rw [undone.outbox, replaced.outbox, List.map_map, List.map_map, List.map_inj_left,
      replaced.current]
    constructor
    · intro same coalesceKey row stored
      exact (undated_refiled_iff _ _ now later _).mp
        (same (coalesceKey, row) ((Table.mem_rows_iff _ _ _).mpr stored))
    · rintro filed ⟨coalesceKey, row⟩ member
      exact (undated_refiled_iff _ _ now later _).mpr
        (filed coalesceKey row ((Table.mem_rows_iff _ _ _).mp member))
  constructor
  · intro unaltered
    exact ⟨counts.mp unaltered.queryStats, outbox.mp unaltered.outbox⟩
  · intro restorable
    refine ⟨?_, counts.mpr restorable.unreported, outbox.mpr restorable.filed⟩
    rw [undone.profileMeta, replaced.current]

end Undone

end Lvos.Storage
