import Lvos.Storage.Shape

set_option autoImplicit false

namespace Lvos.Storage

open Lvos.Core Lvos.Sync
open Relational (Table)

/-! What the steps of a profile do to `query_stats`, `history_entries` and `favorites`. -/

/-- What holds of every statistics row, when a row that was never counted up has it
and only the Device's own columns matter for it. -/
structure CountProperty (property : QueryStats → Prop) : Prop where
  zero : ∀ stats, stats.deviceQueryCount = 0 → property stats
  own : ∀ stats kept : QueryStats, kept.deviceQueryCount = stats.deviceQueryCount →
    kept.firstQueriedAt = stats.firstQueriedAt → kept.lastQueriedAt = stats.lastQueriedAt →
    property stats → property kept

def Counted (property : QueryStats → Prop) (db : ProfileDb) : Prop :=
  ∀ key stats, db.queryStats.get key = some stats → property stats

section Property

variable {property : QueryStats → Prop} {db next : ProfileDb}

theorem Counted.kept (lawful : CountProperty property) (counted : Counted property db)
    (kept : StatsKept db.queryStats next.queryStats) : Counted property next := by
  intro key stats stored
  cases before : db.queryStats.get key with
  | none => exact lawful.zero stats ((kept key).2 before stats stored)
  | some old =>
      obtain ⟨found, here, count, first, last⟩ := (kept key).1 old before
      rw [stored] at here
      cases here
      exact lawful.own old stats count first last (counted key old before)

/-- Where a statistics row comes from after a user's write. -/
theorem LocalMove.stats {input : Input} (move : LocalMove input db next) {key : ContentKey}
    {stats : QueryStats} (stored : next.queryStats.get key = some stats) :
    db.queryStats.get key = some stats ∨
      (db.queryStats.get key = none ∧ ∃ first, stats = ⟨0, first, first, 0, 0, none, none, none⟩) ∨
      ∃ entry, input.queried entry ∧ key = entry.content.contentKey ∧
        countQuery (db.queryStats.get key) entry.lastQueriedAt = .ok stats := by
  cases move with
  | history entry given changed => exact Or.inl (by rw [changed] at stored; exact stored)
  | baseline entry given changed =>
      rw [changed] at stored
      unfold insertHistoryWithZeroStats at stored
      dsimp only [upsertHistory] at stored
      split at stored
      · exact Or.inl stored
      · rename_i missing
        rw [Table.get_put] at stored
        split at stored
        · rename_i same
          cases stored
          exact Or.inr (Or.inl ⟨same ▸ missing, _, rfl⟩)
        · exact Or.inl stored
  | counted entry counted given count outside changed =>
      rw [changed] at stored
      dsimp only at stored
      rw [Table.get_put] at stored
      split at stored
      · rename_i same
        cases stored
        exact Or.inr (Or.inr ⟨entry, given, same, same ▸ count⟩)
      · exact Or.inl stored
  | reported entry counted eventId favorite given new count inside unused changed =>
      rw [changed] at stored
      dsimp only at stored
      rw [Table.get_put] at stored
      split at stored
      · rename_i same
        cases stored
        exact Or.inr (Or.inr ⟨entry, given, same, same ▸ count⟩)
      · exact Or.inl stored
  | favorited other now eventId entry counted new known here inactive unused changed =>
      exact Or.inl (by rw [changed] at stored; exact stored)
  | archived favorite given absent deleted changed =>
      exact Or.inl (by rw [changed] at stored; exact stored)
  | folded other now favorite here active unsynced changed =>
      exact Or.inl (by rw [changed] at stored; exact stored)
  | withdrawn other now eventId favorite counted new here active synced unused changed =>
      exact Or.inl (by rw [changed] at stored; exact stored)
  | cleared changed =>
      rw [changed] at stored
      unfold clearHistory at stored
      dsimp only at stored
      rw [Table.get_delete] at stored
      exact Or.inl (Option.eq_some_of_filter_eq_some stored)

/-- A user's write keeps what every counted query keeps. -/
theorem Counted.localMove (lawful : CountProperty property) {input : Input}
    (counted : Counted property db) (move : LocalMove input db next)
    (counts : ∀ entry stats, input.queried entry →
      countQuery (db.queryStats.get entry.content.contentKey) entry.lastQueriedAt = .ok stats →
      property stats) : Counted property next := by
  intro key stats stored
  rcases move.stats stored with old | ⟨-, first, rfl⟩ | ⟨entry, given, rfl, count⟩
  · exact counted key stats old
  · exact lawful.zero _ rfl
  · exact counts entry stats given count

end Property

section Origin

variable {input : Input} {db next : ProfileDb}

theorem LocalMove.historyOrigin (move : LocalMove input db next) {key : ContentKey}
    {entry : HistoryEntry} (stored : next.historyEntries.get key = some entry) :
    db.historyEntries.get key = some entry ∨
      ((input.queried entry ∨ input.imported entry) ∧ entry.content.contentKey = key) := by
  have written : ∀ other, (input.queried other ∨ input.imported other) →
      next.historyEntries = db.historyEntries.put other.content.contentKey other →
      db.historyEntries.get key = some entry ∨
        ((input.queried entry ∨ input.imported entry) ∧ entry.content.contentKey = key) := by
    intro other given changed
    rw [changed, Table.get_put] at stored
    split at stored
    · rename_i same
      cases stored
      exact Or.inr ⟨given, same.symm⟩
    · exact Or.inl stored
  cases move with
  | history other given changed => exact written other (Or.inr given) (by rw [changed]; rfl)
  | baseline other given changed =>
      refine written other (Or.inr given) ?_
      rw [changed]
      unfold insertHistoryWithZeroStats
      dsimp only
      split
      · rfl
      · rfl
  | counted other stats given count outside changed =>
      exact written other (Or.inl given) (by rw [changed]; rfl)
  | reported other stats eventId favorite given new count inside unused changed =>
      exact written other (Or.inl given) (by rw [changed]; rfl)
  | favorited other now eventId known stats new here counted inactive unused changed =>
      exact Or.inl (by rw [changed] at stored; exact stored)
  | archived favorite given absent deleted changed =>
      exact Or.inl (by rw [changed] at stored; exact stored)
  | folded other now favorite here active unsynced changed =>
      exact Or.inl (by rw [changed] at stored; exact stored)
  | withdrawn other now eventId favorite stats new here active synced unused changed =>
      exact Or.inl (by rw [changed] at stored; exact stored)
  | cleared changed =>
      rw [changed] at stored
      cases stored

/-- Where a Favorite row comes from after a user's write. -/
inductive FavoriteOrigin (input : Input) (db : ProfileDb) (key : ContentKey) (value : FavoriteRow) :
    Prop
  | kept (stored : db.favorites.get key = some value)
  | entered (entry : HistoryEntry) (now : Int) (revision : Nat)
      (known : db.historyEntries.get key = some entry)
      (written : value = favoriteRowOf entry now revision)
  | buried (old : FavoriteRow) (now : Int) (stored : db.favorites.get key = some old)
      (written : value = tombstone now old)
  | archived (favorite : Favorite) (given : input.archived favorite)
      (keyed : favorite.content.contentKey = key) (deleted : favorite.deletedAt.isSome)
      (written : value = archivedRow favorite)

theorem LocalMove.favoriteOrigin (move : LocalMove input db next) {key : ContentKey}
    {value : FavoriteRow} (stored : next.favorites.get key = some value) :
    FavoriteOrigin input db key value := by
  -- Both ways to withdraw a Favorite bury its row.
  have buried : ∀ target now, next.favorites =
      db.favorites.update (fun other _ => other = target) (tombstone now) →
      FavoriteOrigin input db key value := by
    intro target now changed
    rw [changed, Table.get_update_key] at stored
    split at stored
    · obtain ⟨old, here, same⟩ := Option.map_eq_some_iff.mp stored
      exact .buried old now here same.symm
    · exact .kept stored
  cases move with
  | history entry given changed => exact .kept (by rw [changed] at stored; exact stored)
  | baseline entry given changed =>
      exact .kept (by
        rw [changed, (insertHistoryWithZeroStats_favorites db entry).1] at stored
        exact stored)
  | counted entry stats given count outside changed =>
      exact .kept (by rw [changed] at stored; exact stored)
  | reported entry stats eventId favorite given new count inside unused changed =>
      exact .kept (by rw [changed] at stored; exact stored)
  | favorited target now eventId entry stats new known counted inactive unused changed =>
      rw [changed] at stored
      dsimp only at stored
      rw [Table.get_put] at stored
      split at stored
      · rename_i same
        cases stored
        exact .entered entry now _ (same ▸ known) rfl
      · exact .kept stored
  | archived favorite given absent deleted changed =>
      rw [changed] at stored
      unfold archiveTombstone at stored
      dsimp only at stored
      rw [Table.get_put] at stored
      split at stored
      · rename_i same
        cases stored
        exact .archived favorite given same.symm deleted rfl
      · exact .kept stored
  | folded target now favorite here active unsynced changed =>
      exact buried target now (by rw [changed]; rfl)
  | withdrawn target now eventId favorite stats new here active synced unused changed =>
      exact buried target now (by rw [changed])
  | cleared changed => exact .kept (by rw [changed] at stored; exact stored)

end Origin

section Kept

variable {db next : ProfileDb}

theorem acknowledgeEvents_kept (items : List AcknowledgedEvent) (now : Int) (db : ProfileDb) :
    StatsKept db.queryStats (acknowledgeEvents db items now).1.queryStats := by
  unfold acknowledgeEvents
  cases body : acknowledgeBody items now db with
  | error reason =>
      rw [Transaction.atomically_of_error body]
      exact .refl _
  | ok pair =>
      obtain ⟨after, done⟩ := pair
      rw [Transaction.atomically_of_ok body]
      obtain ⟨last, looped, rfl⟩ := acknowledgeBody_ok body
      exact acknowledgeLoop_induct (fun _ db last => StatsKept db.queryStats last.queryStats)
        (fun _ => .refl _)
        (fun item rest db middle last turned tail => by
          obtain ⟨-, table, kept, rfl⟩ := acknowledgeEvent_ok turned
          exact kept.trans tail)
        items db last looped

theorem Resolved.kept {event : OutboxEvent} {current : Option FavoriteRecord} {now : Int}
    {resolution : ConflictResolution} (resolved : Resolved db next event current now resolution) :
    StatsKept db.queryStats next.queryStats := by
  cases resolved with
  | converged record key localValue table answer keyed found reached kept changed =>
      rw [changed]
      exact kept
  | replayed record row table answer pending first kept changed =>
      rw [changed]
      exact kept
  | manual table kept changed =>
      rw [changed]
      exact kept

theorem resolveConflict_kept (db : ProfileDb) (event : OutboxEvent)
    (current : Option FavoriteRecord) (now : Int) :
    StatsKept db.queryStats (resolveConflict db event current now).1.queryStats := by
  unfold resolveConflict
  cases body : resolveConflictBody event current now db with
  | error reason =>
      rw [Transaction.atomically_of_error body]
      exact .refl _
  | ok pair =>
      obtain ⟨after, resolution⟩ := pair
      rw [Transaction.atomically_of_ok body]
      exact (resolveConflictBody_ok body).2.kept

theorem Pulled.kept {record : FavoriteRecord} {key : ContentKey} {now : Int}
    (pulled : Pulled db next record key now) : StatsKept db.queryStats next.queryStats := by
  cases pulled with
  | written table idle kept changed =>
      rw [changed]
      exact kept
  | converged table row localValue pending found reached kept changed =>
      rw [changed]
      exact kept
  | rebased table row localValue pending found apart kept changed =>
      rw [changed]
      exact kept

theorem Pulled.historyEntries {record : FavoriteRecord} {key : ContentKey} {now : Int}
    (pulled : Pulled db next record key now) : next.historyEntries = db.historyEntries := by
  cases pulled with
  | written table idle kept changed => subst changed; rfl
  | converged table row localValue pending found reached kept changed => subst changed; rfl
  | rebased table row localValue pending found apart kept changed => subst changed; rfl

theorem validateRemote_version [ContentTables] {remote : FavoriteRecord}
    (valid : validateRemote remote = .ok ()) : remote.keyVersion = contentKeyVersion := by
  unfold validateRemote at valid
  split at valid
  · cases valid
  · rename_i allowed
    exact not_not.mp (fun differs => allowed (Or.inl differs))

theorem applyRemotePage_kept [ContentTables] (db : ProfileDb) (changes : List SyncChange)
    (nextRevision : Nat) (now : Int) :
    StatsKept db.queryStats (applyRemotePage db changes nextRevision now).1.queryStats := by
  unfold applyRemotePage
  cases body : applyRemotePageBody changes nextRevision now db with
  | error reason =>
      rw [Transaction.atomically_of_error body]
      exact .refl _
  | ok pair =>
      obtain ⟨after, done⟩ := pair
      rw [Transaction.atomically_of_ok body]
      obtain ⟨last, looped, rfl⟩ := applyRemotePage_ok body
      exact applyRemoteLoop_induct (fun _ db last => StatsKept db.queryStats last.queryStats)
        (fun _ => .refl _)
        (fun change rest db middle last key _ _ pulled tail => pulled.kept.trans tail)
        changes db last _ _ looped

end Kept

section Rows

/-- Every Outbox row was there before, for the same intent. -/
def OutboxKept (db next : ProfileDb) : Prop :=
  ∀ coalesceKey row, next.syncOutbox.get coalesceKey = some row →
    ∃ old, db.syncOutbox.get coalesceKey = some old ∧ row.eventId = old.eventId ∧
      row.contentKey = old.contentKey ∧ row.operation = old.operation

theorem OutboxKept.refl (db : ProfileDb) : OutboxKept db db :=
  fun _ row stored => ⟨row, stored, rfl, rfl, rfl⟩

theorem OutboxKept.trans {db middle next : ProfileDb} (first : OutboxKept db middle)
    (second : OutboxKept middle next) : OutboxKept db next := by
  intro coalesceKey row stored
  obtain ⟨between, here, eventId, contentKey, operation⟩ := second coalesceKey row stored
  obtain ⟨old, there, sameId, sameKey, sameOperation⟩ := first coalesceKey between here
  exact ⟨old, there, eventId.trans sameId, contentKey.trans sameKey,
    operation.trans sameOperation⟩

variable {db next : ProfileDb}

/-- One acknowledged event: its row is gone, the others were there. -/
theorem acknowledgeEvent_rows {item : AcknowledgedEvent} {now : Int}
    (success : acknowledgeEvent db item now = .ok next) :
    OutboxKept db next ∧ ∀ coalesceKey row, next.syncOutbox.get coalesceKey = some row →
      row.eventId ≠ item.event.eventId := by
  obtain ⟨-, table, -, equation⟩ := acknowledgeEvent_ok success
  replace equation : next = acknowledged db item.event item.acknowledgement.entityRevision table :=
    equation
  subst equation
  refine ⟨fun coalesceKey row stored => ?_, fun coalesceKey row stored => ?_⟩
  · obtain ⟨old, here, -, rfl | ⟨revision, -, -, -, rfl⟩⟩ := acknowledged_carried _ _ _ _ stored
    · exact ⟨row, here, rfl, rfl, rfl⟩
    · exact ⟨old, here, rfl, rfl, rfl⟩
  · obtain ⟨old, here, apart, rfl | ⟨revision, -, -, -, rfl⟩⟩ := acknowledged_carried _ _ _ _ stored
    · exact apart
    · exact apart

theorem acknowledgeLoop_rows {items : List AcknowledgedEvent} {now : Int}
    (success : acknowledgeLoop now db items = .ok next) :
    OutboxKept db next ∧ ∀ item ∈ items, ∀ coalesceKey row,
      next.syncOutbox.get coalesceKey = some row → row.eventId ≠ item.event.eventId :=
  acknowledgeLoop_induct
    (fun items db next => OutboxKept db next ∧ ∀ item ∈ items, ∀ coalesceKey row,
      next.syncOutbox.get coalesceKey = some row → row.eventId ≠ item.event.eventId)
    (fun db => ⟨.refl db, by simp⟩)
    (fun item rest db middle last turned tail => by
      obtain ⟨kept, gone⟩ := acknowledgeEvent_rows turned
      refine ⟨kept.trans tail.1, ?_⟩
      intro other member coalesceKey row stored
      rcases List.mem_cons.mp member with rfl | later
      · obtain ⟨old, here, eventId, -⟩ := tail.1 coalesceKey row stored
        rw [eventId]
        exact gone coalesceKey old here
      · exact tail.2 other later coalesceKey row stored)
    items db next success

theorem acknowledgeEvents_rows (items : List AcknowledgedEvent) (now : Int) (db : ProfileDb) :
    OutboxKept db (acknowledgeEvents db items now).1 := by
  unfold acknowledgeEvents
  cases body : acknowledgeBody items now db with
  | error reason =>
      rw [Transaction.atomically_of_error body]
      exact .refl db
  | ok pair =>
      obtain ⟨after, done⟩ := pair
      rw [Transaction.atomically_of_ok body]
      obtain ⟨last, looped, rfl⟩ := acknowledgeBody_ok body
      exact (acknowledgeLoop_rows looped).1

theorem Resolved.rows {event : OutboxEvent} {current : Option FavoriteRecord} {now : Int}
    {resolution : ConflictResolution} (resolved : Resolved db next event current now resolution) :
    OutboxKept db next := by
  intro coalesceKey row stored
  by_cases same : coalesceKey = .favorite event.contentKey
  · subst same
    cases resolved with
    | converged record key localValue table answer keyed found reached kept changed =>
        rw [changed] at stored
        dsimp only at stored
        rw [Table.get_delete_key, if_pos rfl] at stored
        cases stored
    | replayed record old table answer pending first kept changed =>
        rw [changed] at stored
        replace stored : (prepareReplay _ _ _ _).syncOutbox.get _ = some row := stored
        rw [prepareReplay_get, if_pos rfl] at stored
        obtain ⟨before, here, rfl⟩ := Option.map_eq_some_iff.mp stored
        exact ⟨before, here, rfl, rfl, rfl⟩
    | manual table kept changed =>
        rw [changed] at stored
        replace stored : (markManualConflict _ _ _).syncOutbox.get _ = some row := stored
        rw [markManualConflict_get, if_pos rfl] at stored
        obtain ⟨before, here, rfl⟩ := Option.map_eq_some_iff.mp stored
        exact ⟨before, here, rfl, rfl, rfl⟩
  · rw [resolved.outbox_apart same] at stored
    exact ⟨row, stored, rfl, rfl, rfl⟩

theorem resolveConflict_rows (db : ProfileDb) (event : OutboxEvent)
    (current : Option FavoriteRecord) (now : Int) :
    OutboxKept db (resolveConflict db event current now).1 := by
  unfold resolveConflict
  cases body : resolveConflictBody event current now db with
  | error reason =>
      rw [Transaction.atomically_of_error body]
      exact .refl db
  | ok pair =>
      obtain ⟨after, resolution⟩ := pair
      rw [Transaction.atomically_of_ok body]
      exact (resolveConflictBody_ok body).2.rows

theorem Pulled.rows {record : FavoriteRecord} {key : ContentKey} {now : Int}
    (pulled : Pulled db next record key now) : OutboxKept db next := by
  intro coalesceKey row stored
  by_cases same : coalesceKey = .favorite key
  · subst same
    cases pulled.key with
    | written favorites outbox =>
        rw [outbox] at stored
        cases stored
    | adopted old after queued outbox favorites eventId contentKey operation createdAt base =>
        rw [outbox] at stored
        cases stored
        exact ⟨old, queued, eventId, contentKey, operation⟩
  · rw [pulled.outbox_apart same] at stored
    exact ⟨row, stored, rfl, rfl, rfl⟩

theorem applyRemotePage_rows [ContentTables] (db : ProfileDb) (changes : List SyncChange)
    (nextRevision : Nat) (now : Int) :
    OutboxKept db (applyRemotePage db changes nextRevision now).1 := by
  unfold applyRemotePage
  cases body : applyRemotePageBody changes nextRevision now db with
  | error reason =>
      rw [Transaction.atomically_of_error body]
      exact .refl db
  | ok pair =>
      obtain ⟨after, done⟩ := pair
      rw [Transaction.atomically_of_ok body]
      obtain ⟨last, looped, rfl⟩ := applyRemotePage_ok body
      exact applyRemoteLoop_induct (fun _ db last => OutboxKept db last) .refl
        (fun change rest db middle last key _ _ pulled tail => pulled.rows.trans tail)
        changes db last _ _ looped

theorem markRetry_rows (db : ProfileDb) (events : List OutboxEvent) (nextRetryAt : Int)
    (error : String) (now : Int) : OutboxKept db (markRetry db events nextRetryAt error now) := by
  intro coalesceKey row stored
  obtain ⟨old, here, like⟩ := markRetry_like db events nextRetryAt error now stored
  exact ⟨old, here, like.eventId, like.contentKey, like.operation⟩

/-- Every statistics row is of the profile's own Device. -/
def OwnStats (db : ProfileDb) : Prop :=
  ∀ deviceId key row, db.syncOutbox.get (.queryStats deviceId key) = some row →
    deviceId = db.profileMeta.deviceId

theorem OwnStats.kept (own : OwnStats db)
    (kept : ∀ coalesceKey row, next.syncOutbox.get coalesceKey = some row →
      ∃ old, db.syncOutbox.get coalesceKey = some old)
    (same : next.profileMeta.deviceId = db.profileMeta.deviceId) : OwnStats next := by
  intro deviceId key row stored
  obtain ⟨old, here⟩ := kept _ row stored
  rw [same]
  exact own deviceId key old here

theorem OwnStats.localMove {input : Input} (own : OwnStats db) (move : LocalMove input db next) :
    OwnStats next := by
  intro deviceId key row stored
  rw [move.profileMeta]
  cases move with
  | history entry given changed => exact own deviceId key row (by rw [changed] at stored; exact stored)
  | baseline entry given changed =>
      rw [changed, (insertHistoryWithZeroStats_favorites db entry).2.1] at stored
      exact own deviceId key row stored
  | counted entry stats given count outside changed =>
      exact own deviceId key row (by rw [changed] at stored; exact stored)
  | reported entry stats eventId favorite given new count inside unused changed =>
      rw [changed] at stored
      dsimp only at stored
      rw [Table.get_put] at stored
      split at stored
      · rename_i same
        exact (CoalesceKey.queryStats.inj same).1
      · exact own deviceId key row stored
  | favorited target now eventId entry stats new known counted inactive unused changed =>
      rw [changed] at stored
      dsimp only at stored
      rw [Table.get_put_of_ne _ _ (by simp)] at stored
      exact own deviceId key row stored
  | archived favorite given absent deleted changed =>
      exact own deviceId key row (by rw [changed] at stored; exact stored)
  | folded target now favorite here active unsynced changed =>
      rw [changed, deleteCoalesced_get, if_neg (by simp), deleteCoalesced_get] at stored
      split at stored
      · cases stored
      · exact own deviceId key row stored
  | withdrawn target now eventId favorite stats new here active synced unused changed =>
      rw [changed] at stored
      dsimp only at stored
      rw [Table.get_put_of_ne _ _ (by simp), Table.get_delete_key] at stored
      split at stored
      · cases stored
      · exact own deviceId key row stored
  | cleared changed => exact own deviceId key row (by rw [changed] at stored; exact stored)

/-- The rows are filed under what they are about. -/
def Labelled (db : ProfileDb) : Prop :=
  (∀ key row, db.syncOutbox.get (.favorite key) = some row →
    row.contentKey = key ∧ isFavoriteOperation row.operation = true) ∧
  ∀ deviceId key row, db.syncOutbox.get (.queryStats deviceId key) = some row →
    isFavoriteOperation row.operation = false

/-- A stored Favorite intent stands under the key of its content. -/
theorem Labelled.filed {event : OutboxEvent} (labelled : Labelled db)
    (stored : db.syncOutbox.get event.coalesceKey = some event.toOutboxRow)
    (favorite : isFavoriteOperation event.operation = true) :
    event.coalesceKey = .favorite event.contentKey := by
  cases keyed : event.coalesceKey with
  | favorite key =>
      rw [keyed] at stored
      rw [(labelled.1 key _ stored).1]
  | queryStats deviceId key =>
      rw [keyed] at stored
      rw [labelled.2 deviceId key _ stored] at favorite
      cases favorite

theorem Labelled.kept (labelled : Labelled db) (kept : OutboxKept db next) : Labelled next := by
  refine ⟨fun key row stored => ?_, fun deviceId key row stored => ?_⟩
  · obtain ⟨old, here, -, contentKey, operation⟩ := kept _ row stored
    rw [contentKey, operation]
    exact labelled.1 key old here
  · obtain ⟨old, here, -, -, operation⟩ := kept _ row stored
    rw [operation]
    exact labelled.2 deviceId key old here

/-- A queued intent, over the row it replaces. -/
theorem Labelled.queued {coalesceKey : CoalesceKey} {event : PendingOutbox}
    {table : Table CoalesceKey OutboxRow} (labelled : Labelled db)
    (others : ∀ other, other ≠ coalesceKey →
      table.get other = none ∨ table.get other = db.syncOutbox.get other)
    (mine : table.get coalesceKey = some (event.row (db.syncOutbox.get coalesceKey)))
    (favorite : ∀ key, coalesceKey = .favorite key →
      event.key = key ∧ isFavoriteOperation event.operation = true)
    (stats : ∀ deviceId key, coalesceKey = .queryStats deviceId key →
      isFavoriteOperation event.operation = false)
    (outbox : next.syncOutbox = table) : Labelled next := by
  have carried : ∀ other row, next.syncOutbox.get other = some row → other ≠ coalesceKey →
      db.syncOutbox.get other = some row := by
    intro other row stored apart
    rw [outbox] at stored
    rcases others other apart with gone | same
    · rw [gone] at stored
      cases stored
    · rw [← same]
      exact stored
  refine ⟨fun key row stored => ?_, fun deviceId key row stored => ?_⟩
  · by_cases same : CoalesceKey.favorite key = coalesceKey
    · subst same
      obtain ⟨keyed, operation⟩ := favorite key rfl
      rw [outbox, mine] at stored
      cases stored
      rw [PendingOutbox.row_operation]
      refine ⟨?_, operation⟩
      rw [PendingOutbox.row_contentKey event _ (fun old here => by
        rw [keyed]
        exact (labelled.1 key old here).1)]
      exact keyed
    · exact labelled.1 key row (carried _ row stored same)
  · by_cases same : CoalesceKey.queryStats deviceId key = coalesceKey
    · subst same
      rw [outbox, mine] at stored
      cases stored
      rw [PendingOutbox.row_operation]
      exact stats deviceId key rfl
    · exact labelled.2 deviceId key row (carried _ row stored same)

theorem Labelled.localMove {input : Input} (labelled : Labelled db)
    (move : LocalMove input db next) : Labelled next := by
  have same : next.syncOutbox = db.syncOutbox → Labelled next := by
    intro equal
    exact labelled.kept (fun coalesceKey row stored => ⟨row, equal ▸ stored, rfl, rfl, rfl⟩)
  cases move with
  | history entry given changed => exact same (by rw [changed]; rfl)
  | baseline entry given changed =>
      exact same (by rw [changed, (insertHistoryWithZeroStats_favorites db entry).2.1])
  | counted entry stats given count outside changed => exact same (by rw [changed]; rfl)
  | archived favorite given absent deleted changed => exact same (by rw [changed]; rfl)
  | cleared changed => exact same (by rw [changed]; rfl)
  | reported entry stats eventId favorite given new count inside unused changed =>
      refine labelled.queued (fun other apart => Or.inr (Table.get_put_of_ne _ _ apart))
        (Table.get_put_self _ _ _) ?_ ?_ (by rw [changed])
      · intro key impossible
        cases impossible
      · intro deviceId key _
        rfl
  | favorited key now eventId entry stats new known counted inactive unused changed =>
      refine labelled.queued (fun other apart => Or.inr (Table.get_put_of_ne _ _ apart))
        (Table.get_put_self _ _ _) ?_ ?_ (by rw [changed])
      · rintro other ⟨⟩
        exact ⟨rfl, rfl⟩
      · intro deviceId other impossible
        cases impossible
  | folded key now favorite stored active unsynced changed =>
      refine labelled.kept (fun coalesceKey row here => ?_)
      rw [changed, deleteCoalesced_get, deleteCoalesced_get] at here
      split at here
      · cases here
      · split at here
        · cases here
        · exact ⟨row, here, rfl, rfl, rfl⟩
  | withdrawn key now eventId favorite stats new stored active synced unused changed =>
      refine labelled.queued (fun other apart => ?_) (Table.get_put_self _ _ _) ?_ ?_
        (by rw [changed])
      · rw [Table.get_put_of_ne _ _ apart, Table.get_delete_key]
        split
        · exact Or.inl rfl
        · exact Or.inr rfl
      · rintro other ⟨⟩
        exact ⟨rfl, rfl⟩
      · intro deviceId other impossible
        cases impossible

end Rows

end Lvos.Storage
