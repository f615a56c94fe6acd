import Lvos.Storage.Coverage

set_option autoImplicit false

namespace Lvos.Storage

open Lvos.Core Lvos.Sync
open Relational (Table)
open Transaction (bind_ok_iff)
open Absorption (Turns)

/-! What an import relies on, and what keeps it. -/

/-- What an import relies on: every content of the history has statistics, and every revision
fits its column. -/
structure ImportReady (db : ProfileDb) : Prop where
  counted : ∀ key, (db.historyEntries.get key).isSome = true →
    (db.queryStats.get key).isSome = true
  bounded : ∀ key row, db.favorites.get key = some row → row.entityRevision < i64Limit

section Ready

variable {db next : ProfileDb} {document : ValidatedExport} {now : Int}
  {eventIds : ContentKey → Uuid} {key : ContentKey} {input : Input}

theorem ImportReady.congr (ready : ImportReady db)
    (history : next.historyEntries = db.historyEntries) (stats : next.queryStats = db.queryStats)
    (favorites : next.favorites = db.favorites) : ImportReady next := by
  refine ⟨?_, ?_⟩
  · rw [history, stats]
    exact ready.counted
  · rw [favorites]
    exact ready.bounded

theorem ImportReady.put (ready : ImportReady db) {row : FavoriteRow}
    (history : next.historyEntries = db.historyEntries) (stats : next.queryStats = db.queryStats)
    (favorites : next.favorites = db.favorites.put key row)
    (fits : row.entityRevision < i64Limit) : ImportReady next := by
  refine ⟨?_, ?_⟩
  · rw [history, stats]
    exact ready.counted
  · intro other found stored
    rw [favorites, Table.get_put] at stored
    split at stored
    · cases stored
      exact fits
    · exact ready.bounded other found stored

theorem ImportReady.revisionOf (ready : ImportReady db) (key : ContentKey) :
    revisionOf (db.favorites.get key) < i64Limit := by
  cases stored : db.favorites.get key with
  | none => decide
  | some row => exact ready.bounded key row stored

theorem ImportReady.insertHistory (ready : ImportReady db) (entry : HistoryEntry) :
    ImportReady (insertHistoryWithZeroStats db entry) := by
  refine ⟨?_, ?_⟩
  · intro key here
    rw [insertHistory_counted]
    rw [insertHistory_get] at here
    split at here
    · rename_i own
      exact Or.inl own
    · exact Or.inr (ready.counted key here)
  · rw [(insertHistory_apart db entry).1]
    exact ready.bounded

theorem ImportReady.upsertHistory (ready : ImportReady db) {entry : HistoryEntry}
    (present : (db.historyEntries.get entry.content.contentKey).isSome = true) :
    ImportReady (upsertHistory db entry) := by
  refine ⟨?_, ready.bounded⟩
  intro key here
  apply ready.counted
  rw [upsertHistory_get] at here
  split at here
  · rename_i own
    rw [own]
    exact present
  · exact here

theorem mergeHistory_ready (ready : ImportReady db) (imported : HistoryEntry)
    (result : PortableImportResult) :
    ImportReady (mergeHistory db imported result).1 ∧
      (mergeHistory db imported result).1.favorites = db.favorites ∧
      (mergeHistory db imported result).1.syncOutbox = db.syncOutbox := by
  unfold mergeHistory
  split
  · exact ⟨ready.insertHistory imported, insertHistory_apart db imported⟩
  · rename_i existing found
    split
    · exact ⟨ready.upsertHistory (by rw [found]; rfl), rfl, rfl⟩
    · exact ⟨ready, rfl, rfl⟩

theorem mergesHistory_ready {entries : List HistoryEntry}
    (turns : Turns MergesHistory db entries next) (ready : ImportReady db) :
    ImportReady next ∧ next.favorites = db.favorites ∧ next.syncOutbox = db.syncOutbox := by
  refine turns.keeps (fun state => ImportReady state ∧ state.favorites = db.favorites ∧
    state.syncOutbox = db.syncOutbox) ?_ ⟨ready, rfl, rfl⟩
  rintro before entry _ - ⟨counters, rfl⟩ ⟨holds, favorites, syncOutbox⟩
  obtain ⟨one, sameFavorites, sameOutbox⟩ := mergeHistory_ready holds entry counters
  exact ⟨one, sameFavorites.trans favorites, sameOutbox.trans syncOutbox⟩

theorem mergeFavoriteHistory_ready (ready : ImportReady db) (favorite : Favorite)
    (result : PortableImportResult) :
    ImportReady (mergeFavoriteHistory document db favorite result).1 := by
  rcases mergeFavoriteHistory_cases document db favorite result with same | ⟨inserted, -⟩
  · rw [same]
    exact ready
  · rw [inserted]
    exact ready.insertHistory _

theorem favoriteFromHistoryTx_ready {eventId : Uuid} {favorite : Favorite}
    (ready : ImportReady db)
    (success : favoriteFromHistoryTx key now eventId db = .ok (next, favorite)) :
    ImportReady next := by
  obtain ⟨-, ⟨rfl, -⟩ | ⟨entry, stats, -, -, -, -, written⟩⟩ := favoriteFromHistoryTx_cases success
  · exact ready
  · rw [written]
    exact ready.put rfl rfl rfl (ready.revisionOf key)

theorem mergeFavorite_ready {favorite : Favorite} {result after : PortableImportResult}
    (ready : ImportReady db)
    (success : mergeFavorite document now eventIds db favorite result = .ok (next, after)) :
    ImportReady next := by
  have middle := @mergeFavoriteHistory_ready db document ready favorite result
  rcases mergeFavorite_cases success with ⟨rfl, -⟩ | ⟨-, value, stored⟩ | ⟨-, rfl, -⟩
  · exact middle
  · exact favoriteFromHistoryTx_ready middle stored
  · exact middle.put rfl rfl rfl (show 0 < i64Limit by decide)

theorem applyPortableImport_ready (ready : ImportReady db) (plan : PortableImportPlan)
    (now : Int) (eventIds : ContentKey → Uuid) :
    ImportReady (applyPortableImport db plan now eventIds).1 := by
  rcases applyPortableImport_turns db plan now eventIds with
    ⟨reason, same⟩ | ⟨middle, next, result, same, histories, favorites⟩
  · rw [same]
    exact ready
  · rw [same]
    refine favorites.keeps ImportReady ?_ (mergesHistory_ready histories ready).1
    rintro before favorite after - ⟨counters, counted, merged⟩ holds
    exact mergeFavorite_ready holds merged

/-- The statistics of a content that is looked up are there. -/
theorem ImportReady.looked (ready : ImportReady db) (entry : HistoryEntry) (stats : QueryStats)
    (history : next.historyEntries = (Storage.upsertHistory db entry).historyEntries)
    (counted : next.queryStats = db.queryStats.put entry.content.contentKey stats)
    (favorites : next.favorites = db.favorites) : ImportReady next := by
  refine ⟨?_, ?_⟩
  · intro key here
    rw [history, upsertHistory_get] at here
    rw [counted, Table.get_put]
    split
    · rfl
    · rename_i apart
      rw [if_neg apart] at here
      exact ready.counted key here
  · rw [favorites]
    exact ready.bounded

/-- The row of one content is changed and keeps its revision. -/
theorem ImportReady.updated (ready : ImportReady db) {target : ContentKey}
    {change : FavoriteRow → FavoriteRow}
    (history : next.historyEntries = db.historyEntries) (stats : next.queryStats = db.queryStats)
    (favorites : next.favorites =
      db.favorites.update (fun other _ => decide (other = target)) change)
    (fits : ∀ row, row.entityRevision < i64Limit → (change row).entityRevision < i64Limit) :
    ImportReady next := by
  refine ⟨?_, ?_⟩
  · rw [history, stats]
    exact ready.counted
  · intro key row stored
    rw [favorites, Table.get_update_key] at stored
    split at stored
    · obtain ⟨old, before, rfl⟩ := Option.map_eq_some_iff.mp stored
      exact fits old (ready.bounded key old before)
    · exact ready.bounded key row stored

/-- A user's write, those of an import apart. -/
theorem ImportReady.localMove (ready : ImportReady db) (move : LocalMove input db next)
    (asked : ∀ entry, ¬ input.imported entry)
    (unarchived : ∀ favorite, ¬ input.archived favorite) : ImportReady next := by
  cases move with
  | history entry given changed => exact absurd given (asked entry)
  | baseline entry given changed => exact absurd given (asked entry)
  | archived favorite given absent deleted changed => exact absurd given (unarchived favorite)
  | counted entry stats given count outside changed =>
      rw [changed]
      exact ready.looked entry stats rfl rfl rfl
  | reported entry stats eventId row given new count inside unused changed =>
      rw [changed]
      exact ready.looked entry stats rfl rfl rfl
  | favorited key now eventId entry stats new known counted inactive unused changed =>
      rw [changed]
      exact ready.put rfl rfl rfl (ready.revisionOf key)
  | folded key now row stored active unsynced changed =>
      rw [changed]
      exact ready.updated rfl rfl rfl (fun _ fits => fits)
  | withdrawn key now eventId row stats new stored active synced unused changed =>
      rw [changed]
      exact ready.updated rfl rfl rfl (fun _ fits => fits)
  | cleared changed =>
      rw [changed]
      refine ⟨?_, ready.bounded⟩
      intro key here
      cases here

end Ready

section Answers

variable {db next : ProfileDb} {now : Int}

theorem sqliteI64_fits {value result : Nat} (success : sqliteI64 value = .ok result) :
    value < i64Limit := by
  unfold sqliteI64 at success
  split at success
  · assumption
  · cases success

theorem writeRemoteFavorite_fits {remote : FavoriteRecord}
    (success : writeRemoteFavorite db remote now = .ok next) :
    remote.entityRevision < i64Limit := by
  unfold writeRemoteFavorite at success
  obtain ⟨key, -, afterKey⟩ := bind_ok_iff.mp success
  obtain ⟨revision, stored, -⟩ := bind_ok_iff.mp afterKey
  exact sqliteI64_fits stored

theorem applyRemoteChange_fits [ContentTables] {change : SyncChange}
    (success : applyRemoteChange db change now = .ok next) :
    change.favorite.entityRevision < i64Limit := by
  unfold applyRemoteChange at success
  obtain ⟨⟨⟩, -, afterValid⟩ := bind_ok_iff.mp success
  obtain ⟨key, -, afterKey⟩ := bind_ok_iff.mp afterValid
  split at afterKey
  · unfold applyRemotePending at afterKey
    obtain ⟨found, -, rest⟩ := bind_ok_iff.mp afterKey
    cases found with
    | none => cases rest
    | some localValue =>
        dsimp only at rest
        split at rest
        · obtain ⟨last, stored, -⟩ := bind_ok_iff.mp rest
          exact writeRemoteFavorite_fits stored
        · obtain ⟨revision, stored, -⟩ := bind_ok_iff.mp rest
          exact sqliteI64_fits stored
  · exact writeRemoteFavorite_fits afterKey

theorem acknowledgeEvent_fits {item : AcknowledgedEvent} {revision : Nat}
    (success : acknowledgeEvent db item now = .ok next)
    (answered : item.acknowledgement.entityRevision = some revision) : revision < i64Limit := by
  unfold acknowledgeEvent at success
  split at success
  · cases success
  · obtain ⟨middle, entity, -⟩ := bind_ok_iff.mp success
    unfold acknowledgeEntity at entity
    rw [answered] at entity
    obtain ⟨value, stored, -⟩ := bind_ok_iff.mp entity
    exact sqliteI64_fits stored

/-- A conflict that is not left to the user writes the revision of the record. -/
theorem resolveConflictBody_fits {event : OutboxEvent} {record : FavoriteRecord}
    {resolution : ConflictResolution}
    (success : resolveConflictBody event (some record) now db = .ok (next, resolution))
    (resolved : resolution ≠ .manualRetryRequired) : record.entityRevision < i64Limit := by
  unfold resolveConflictBody at success
  split at success
  · obtain ⟨found, -, rest⟩ := bind_ok_iff.mp success
    cases found with
    | none => cases rest
    | some localValue =>
        dsimp only at rest
        split at rest
        · rename_i remote reached
          obtain ⟨last, stored, -⟩ := bind_ok_iff.mp rest
          obtain ⟨same, -⟩ := Option.filter_eq_some_iff.mp reached
          cases same
          exact writeRemoteFavorite_fits stored
        · unfold replayConflict at rest
          dsimp only at rest
          split at rest
          · cases rest
          · obtain ⟨counted, -, afterUpdate⟩ := bind_ok_iff.mp rest
            split at afterUpdate
            · obtain ⟨revision, stored, -⟩ := bind_ok_iff.mp afterUpdate
              exact sqliteI64_fits stored
            · cases afterUpdate
              exact absurd rfl resolved
  · cases success

/-- An answer keeps the history and every statistics row. -/
theorem ImportReady.answered (ready : ImportReady db)
    (history : next.historyEntries = db.historyEntries)
    (moves : TableMoves (fun _ _ _ => True) db.queryStats next.queryStats)
    (fits : ∀ key row, next.favorites.get key = some row → row.entityRevision < i64Limit) :
    ImportReady next := by
  refine ⟨?_, fits⟩
  intro key here
  rw [history] at here
  obtain ⟨stats, stored⟩ := Option.isSome_iff_exists.mp (ready.counted key here)
  obtain ⟨later, there, -⟩ := moves.counts stored
  rw [there]
  rfl

theorem put_fits {favorites : Table ContentKey FavoriteRow} {target key : ContentKey}
    {row found : FavoriteRow}
    (bounded : ∀ key row, favorites.get key = some row → row.entityRevision < i64Limit)
    (fits : row.entityRevision < i64Limit)
    (stored : (favorites.put target row).get key = some found) :
    found.entityRevision < i64Limit := by
  rw [Table.get_put] at stored
  split at stored
  · cases stored
    exact fits
  · exact bounded key found stored

theorem setEntityRevision_fits {target key : ContentKey} {revision : Nat} {row : FavoriteRow}
    (ready : ImportReady db) (fits : revision < i64Limit)
    (stored : (setEntityRevision db target revision).favorites.get key = some row) :
    row.entityRevision < i64Limit := by
  rw [setEntityRevision_get] at stored
  split at stored
  · obtain ⟨old, -, rfl⟩ := Option.map_eq_some_iff.mp stored
    exact fits
  · exact ready.bounded key row stored

theorem acknowledgeEvent_ready {item : AcknowledgedEvent} (ready : ImportReady db)
    (success : acknowledgeEvent db item now = .ok next) : ImportReady next := by
  refine ready.answered (acknowledgeEvent_history success)
    (acknowledgeEvent_taken (fun _ _ => trivial) success).moves ?_
  intro key row stored
  obtain ⟨-, table, -, written⟩ := acknowledgeEvent_ok success
  have view := acknowledged_favorites db item.event item.acknowledgement.entityRevision table key
  have same : next = acknowledged db item.event item.acknowledgement.entityRevision table := written
  rw [same, view] at stored
  split at stored
  · exact ready.bounded key row stored
  · rename_i revision answered
    rw [← setEntityRevision_get] at stored
    exact setEntityRevision_fits ready (acknowledgeEvent_fits success answered) stored

theorem acknowledgeEvents_ready (ready : ImportReady db) (items : List AcknowledgedEvent)
    (now : Int) : ImportReady (acknowledgeEvents db items now).1 := by
  refine Transaction.atomically_keeps (acknowledgeBody items now) db ready ?_
  rintro next ⟨⟩ success
  obtain ⟨last, looped, rfl⟩ := acknowledgeBody_ok success
  have all := acknowledgeLoop_induct (fun _ db last => ImportReady db → ImportReady last)
    (fun _ => id)
    (fun item rest db middle last head tail holds => tail (acknowledgeEvent_ready holds head))
    items db last looped ready
  exact all.congr rfl rfl rfl

theorem applyRemoteChange_ready [ContentTables] {change : SyncChange} (ready : ImportReady db)
    (success : applyRemoteChange db change now = .ok next) : ImportReady next := by
  have fits := applyRemoteChange_fits success
  obtain ⟨key, -, -, pulled⟩ := applyRemoteChange_ok success
  refine ready.answered pulled.historyEntries
    (applyRemoteChange_taken (fun _ _ _ _ => trivial) success).moves ?_
  intro other row stored
  cases pulled with
  | written table idle kept changed =>
      rw [changed] at stored
      exact put_fits ready.bounded fits stored
  | converged table pending localValue queued found reached kept changed =>
      rw [changed] at stored
      exact put_fits ready.bounded fits stored
  | rebased table pending localValue queued found apart kept changed =>
      rw [changed] at stored
      exact setEntityRevision_fits ready fits stored

theorem applyRemotePage_ready [ContentTables] (ready : ImportReady db) (changes : List SyncChange)
    (nextRevision : Nat) (now : Int) :
    ImportReady (applyRemotePage db changes nextRevision now).1 := by
  refine Transaction.atomically_keeps (applyRemotePageBody changes nextRevision now) db ready ?_
  rintro next ⟨⟩ success
  obtain ⟨last, looped, rfl⟩ := applyRemotePage_ok success
  have all := applyRemoteLoop_turns (fun _ db last => ImportReady db → ImportReady last)
    (fun _ => id)
    (fun change rest db middle last head tail holds => tail (applyRemoteChange_ready holds head))
    changes db last _ _ looped ready
  exact all.congr rfl rfl rfl

theorem resolveConflict_ready (ready : ImportReady db) (event : OutboxEvent)
    (current : Option FavoriteRecord) (now : Int) :
    ImportReady (resolveConflict db event current now).1 := by
  have moves := (@resolveConflict_taken (fun _ _ _ => True) event current now db
    (fun _ _ _ _ _ _ => trivial)).moves
  have history := resolveConflict_history event current now db
  rcases Transaction.atomically_cases (resolveConflictBody event current now) db with
    same | ⟨next, resolution, success, committed⟩
  · rw [show (resolveConflict db event current now).1 = db from same]
    exact ready
  · rw [show (resolveConflict db event current now).1 = next from congrArg Prod.fst committed] at *
    refine ready.answered history moves ?_
    intro key row stored
    cases (resolveConflictBody_ok success).2 with
    | converged record other localValue table answer keyed found reached kept changed =>
        subst answer
        rw [changed] at stored
        exact put_fits ready.bounded (resolveConflictBody_fits success nofun) stored
    | replayed record pending table answer queued first kept changed =>
        subst answer
        rw [changed] at stored
        exact setEntityRevision_fits ready (resolveConflictBody_fits success nofun) stored
    | manual table kept changed =>
        rw [changed] at stored
        exact ready.bounded key row stored

theorem replaceDeviceIdentity_ready (ready : ImportReady db) (expectedCurrent replacement : Uuid)
    (now : Int) : ImportReady (replaceDeviceIdentity db expectedCurrent replacement now).1 := by
  refine replaceDeviceIdentity_keeps db expectedCurrent replacement now ready ?_
  intro next replaced
  refine ⟨?_, ?_⟩
  · intro key here
    rw [replaced.historyEntries] at here
    rw [replaced.stats_get, Option.isSome_map]
    exact ready.counted key here
  · rw [replaced.favorites]
    exact ready.bounded

theorem markRetry_ready (ready : ImportReady db) (events : List OutboxEvent) (nextRetryAt : Int)
    (error : String) (now : Int) : ImportReady (markRetry db events nextRetryAt error now) := by
  obtain ⟨favorites, stats, history, -⟩ := markRetry_favorites db events nextRetryAt error now
  exact ready.congr history stats favorites

end Answers

end Lvos.Storage
