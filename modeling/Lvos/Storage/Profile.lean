import Lvos.Core.Content
import Lvos.Lib.Table
import Lvos.Lib.Transaction
import Lvos.Sync.Protocol

set_option autoImplicit false

namespace Lvos.Storage

open Lvos.Core Lvos.Sync
open Relational (Table)

inductive StorageError
  | sqlite
  | invalidIdentifier (kind : String)
  | invalidData (message : String)
  | missingHistory
deriving DecidableEq, Repr

abbrev StorageResult (τ : Type) := Except StorageError τ

structure StoredContent where
  contentKey : ContentKey
  keyVersion : Nat
  kind : TextKind
  sourceLang : LanguageCode
  sourceText : String
  canonicalText : String
deriving DecidableEq

structure TranslationSnapshot where
  targetLang : LanguageCode
  translation : String
  provider : String
  updatedAt : Int
deriving DecidableEq

structure HistoryEntry where
  content : StoredContent
  translation : TranslationSnapshot
  lastQueriedAt : Int
deriving DecidableEq

structure QueryStats where
  deviceQueryCount : Nat
  firstQueriedAt : Int
  lastQueriedAt : Int
  lastSyncedDeviceQueryCount : Nat
  serverTotalQueryCount : Nat
  serverFirstQueriedAt : Option Int
  serverLastQueriedAt : Option Int
  serverSnapshotAt : Option Int
deriving DecidableEq, Repr

structure Favorite where
  content : StoredContent
  translation : TranslationSnapshot
  createdAt : Int
  updatedAt : Int
  deletedAt : Option Int
  entityRevision : Nat
deriving DecidableEq

inductive OutboxOperation
  | favoriteUpsert
  | favoriteDelete
  | queryStatsUpsert
deriving DecidableEq, Repr

structure QueryStatsPayload where
  contentKey : String
  deviceQueryCount : Nat
  firstQueriedAt : Int
  lastQueriedAt : Int
deriving DecidableEq, Repr

structure FavoritePayload where
  contentKey : String
  desiredState : String
  baseEntityRevision : Nat
  queryStats : QueryStatsPayload
deriving DecidableEq, Repr

/-- The value `payload_json` encodes. -/
inductive OutboxPayload
  | favorite (payload : FavoritePayload)
  | queryStats (payload : QueryStatsPayload)
deriving DecidableEq, Repr

/-- `favorite:{key}` and `query_stats:{device_id}:{key}`. -/
inductive CoalesceKey
  | favorite (key : ContentKey)
  | queryStats (deviceId : String) (key : ContentKey)
deriving DecidableEq

/-- `sync_outbox` without the unique column it is looked up by. -/
structure OutboxRow where
  eventId : Uuid
  contentKey : ContentKey
  operation : OutboxOperation
  payload : OutboxPayload
  baseEntityRevision : Option Nat
  createdAt : Int
  updatedAt : Int
  attemptCount : Nat
  nextRetryAt : Option Int
  lastError : Option String
  conflictReplayCount : Nat
deriving DecidableEq

structure OutboxEvent extends OutboxRow where
  coalesceKey : CoalesceKey
deriving DecidableEq

/-- `favorites` without its key; the columns from `kind` to `updated_at` are kept
as the texts a remote record may bring. -/
structure FavoriteRow where
  keyVersion : Nat
  snapshot : FavoriteSnapshot
  deletedAt : Option Int
  entityRevision : Nat
deriving DecidableEq, Repr

structure ProfileMeta where
  profileId : Uuid
  deviceId : String
  lastServerRevision : Nat
  lastSuccessfulSyncAt : Option Int
  lastSyncError : Option String
  updatedAt : Int
deriving DecidableEq

/-- The tables of one Desktop Profile. A history row is only ever written from a
typed entry, so it is kept as one. -/
structure ProfileDb where
  profileMeta : ProfileMeta
  historyEntries : Table ContentKey HistoryEntry
  queryStats : Table ContentKey QueryStats
  favorites : Table ContentKey FavoriteRow
  syncOutbox : Table CoalesceKey OutboxRow
deriving DecidableEq

def ProfileDb.initial (profileId : Uuid) (deviceId : String) (now : Int) : ProfileDb where
  profileMeta := ⟨profileId, deviceId, 0, none, none, now⟩
  historyEntries := Table.empty
  queryStats := Table.empty
  favorites := Table.empty
  syncOutbox := Table.empty

def sqliteI64 (value : Nat) : StorageResult Nat :=
  if value < i64Limit then .ok value
  else .error (.invalidData "integer exceeds SQLite range")

def parseContentKey (value : String) : StorageResult ContentKey :=
  match ContentKey.fromStr value with
  | .ok key => .ok key
  | .error _ => .error (.invalidData "content key")

def parseKind (value : String) : StorageResult TextKind :=
  if value = "word" then .ok .word
  else if value = "text" then .ok .text
  else .error (.invalidData "text kind")

def parseLanguage (message value : String) : StorageResult LanguageCode :=
  match LanguageCode.parse value with
  | .ok code => .ok code
  | .error _ => .error (.invalidData message)

/-- The columns of a `favorites` row read into a `Favorite`; the two readers of
the source differ in the texts they report a bad language with. -/
def readFavorite (sourceMessage targetMessage : String) (key : ContentKey) (row : FavoriteRow) :
    StorageResult Favorite := do
  let kind ← parseKind row.snapshot.kind
  let sourceLang ← parseLanguage sourceMessage row.snapshot.sourceLang
  let targetLang ← parseLanguage targetMessage row.snapshot.targetLang
  .ok {
    content := ⟨key, row.keyVersion, kind, sourceLang, row.snapshot.sourceText,
      row.snapshot.canonicalText⟩
    translation := ⟨targetLang, row.snapshot.translation, row.snapshot.provider,
      row.snapshot.updatedAt⟩
    createdAt := row.snapshot.favoritedAt
    updatedAt := row.snapshot.updatedAt
    deletedAt := row.deletedAt
    entityRevision := row.entityRevision }

def parseFavorite : ContentKey → FavoriteRow → StorageResult Favorite :=
  readFavorite "language code" "language code"

def favoriteTx (db : ProfileDb) (key : ContentKey) : StorageResult (Option Favorite) :=
  match db.favorites.get key with
  | none => .ok none
  | some row => do
      let favorite ← parseFavorite key row
      .ok (some favorite)

def favoriteByKey : ProfileDb → ContentKey → StorageResult (Option Favorite) := favoriteTx

def upsertHistory (db : ProfileDb) (entry : HistoryEntry) : ProfileDb :=
  { db with historyEntries := db.historyEntries.put entry.content.contentKey entry }

def favoriteCoalesceKey (key : ContentKey) : CoalesceKey := .favorite key

def queryStatsCoalesceKey (key : ContentKey) (deviceId : String) : CoalesceKey :=
  .queryStats deviceId key

structure PendingOutbox where
  eventId : Uuid
  key : ContentKey
  operation : OutboxOperation
  payload : OutboxPayload
  coalesceKey : CoalesceKey
  revision : Option Nat
  now : Int

def PendingOutbox.insert (event : PendingOutbox) : OutboxRow where
  eventId := event.eventId
  contentKey := event.key
  operation := event.operation
  payload := event.payload
  baseEntityRevision := event.revision
  createdAt := event.now
  updatedAt := event.now
  attemptCount := 0
  nextRetryAt := none
  lastError := none
  conflictReplayCount := 0

/-- The `DO UPDATE`: the row keeps its key, its creation time and its replay count. -/
def PendingOutbox.replace (event : PendingOutbox) (row : OutboxRow) : OutboxRow :=
  { row with
    eventId := event.eventId
    operation := event.operation
    payload := event.payload
    baseEntityRevision := event.revision
    updatedAt := event.now
    attemptCount := 0
    nextRetryAt := none
    lastError := none }

def PendingOutbox.row (event : PendingOutbox) (existing : Option OutboxRow) : OutboxRow :=
  match existing with
  | none => event.insert
  | some row => event.replace row

def sqliteI64Option : Option Nat → StorageResult (Option Nat)
  | none => .ok none
  | some value => do
      let value ← sqliteI64 value
      .ok (some value)

/-- `event_id` is the primary key, so an id already stored fails the statement. -/
def upsertOutbox (db : ProfileDb) (event : PendingOutbox) : StorageResult ProfileDb := do
  let _ ← sqliteI64Option event.revision
  if db.syncOutbox.rows.any (fun entry => entry.2.eventId = event.eventId) then .error .sqlite
  else
    .ok { db with
      syncOutbox := db.syncOutbox.put event.coalesceKey
        (event.row (db.syncOutbox.get event.coalesceKey)) }

def statsPayload (key : ContentKey) (stats : QueryStats) : QueryStatsPayload :=
  ⟨key.toHex, stats.deviceQueryCount, stats.firstQueriedAt, stats.lastQueriedAt⟩

def upsertQueryStatsEvent (db : ProfileDb) (key : ContentKey) (stats : QueryStats) (now : Int)
    (eventId : Uuid) : StorageResult ProfileDb :=
  upsertOutbox db
    ⟨eventId, key, .queryStatsUpsert, .queryStats (statsPayload key stats),
      queryStatsCoalesceKey key db.profileMeta.deviceId, none, now⟩

def upsertFavoriteEvent (db : ProfileDb) (key : ContentKey) (desiredState : String)
    (revision : Nat) (stats : QueryStats) (now : Int) (operation : OutboxOperation)
    (eventId : Uuid) : StorageResult ProfileDb :=
  upsertOutbox db
    ⟨eventId, key, operation,
      .favorite ⟨key.toHex, desiredState, revision, statsPayload key stats⟩,
      favoriteCoalesceKey key, some revision, now⟩

/-- The `INSERT … ON CONFLICT` of `record_successful_query`. A count past 64 bits
turns into a real number and the read that follows fails. -/
def countQuery (existing : Option QueryStats) (now : Int) : StorageResult QueryStats :=
  match existing with
  | none => .ok ⟨1, now, now, 0, 0, none, none, none⟩
  | some stats =>
      if stats.deviceQueryCount + 1 < i64Limit then
        .ok { stats with
          deviceQueryCount := stats.deviceQueryCount + 1
          lastQueriedAt := now }
      else .error .sqlite

def recordQueryBody (entry : HistoryEntry) (eventId : Uuid) (db : ProfileDb) :
    StorageResult (ProfileDb × QueryStats) := do
  let key := entry.content.contentKey
  let db := upsertHistory db entry
  let stats ← countQuery (db.queryStats.get key) entry.lastQueriedAt
  let db := { db with queryStats := db.queryStats.put key stats }
  if (db.favorites.get key).isSome then
    let db ← upsertQueryStatsEvent db key stats entry.lastQueriedAt eventId
    .ok (db, stats)
  else .ok (db, stats)

/-- Records a successful lookup and coalesces `QueryStats` only after the Content
entered the Favorite domain. -/
def recordSuccessfulQuery (db : ProfileDb) (entry : HistoryEntry) (eventId : Uuid) :
    ProfileDb × StorageResult QueryStats :=
  Transaction.atomically (recordQueryBody entry eventId) db

/-- The `favorites` columns `favorite_from_history_tx` writes. -/
def favoriteRowOf (history : HistoryEntry) (now : Int) (entityRevision : Nat) : FavoriteRow where
  keyVersion := history.content.keyVersion
  snapshot := {
    kind := history.content.kind.protocolName
    sourceLang := history.content.sourceLang.text
    targetLang := history.translation.targetLang.text
    sourceText := history.content.sourceText
    canonicalText := history.content.canonicalText
    translation := history.translation.translation
    provider := history.translation.provider
    favoritedAt := now
    updatedAt := now }
  deletedAt := none
  entityRevision := entityRevision

def favoriteFromHistoryTx (key : ContentKey) (now : Int) (eventId : Uuid) (db : ProfileDb) :
    StorageResult (ProfileDb × Favorite) :=
  match db.historyEntries.get key with
  | none => .error .missingHistory
  | some history =>
      match db.queryStats.get key with
      | none => .error (.invalidData "favorite query stats are missing")
      | some stats => do
          let existing ← favoriteTx db key
          match existing.filter (fun favorite => favorite.deletedAt.isNone) with
          | some favorite => .ok (db, favorite)
          | none =>
              let entityRevision ← sqliteI64 ((existing.map Favorite.entityRevision).getD 0)
              let db := { db with
                favorites := db.favorites.put key (favoriteRowOf history now entityRevision) }
              let db ← upsertFavoriteEvent db key "active" entityRevision stats now
                .favoriteUpsert eventId
              match ← favoriteTx db key with
              | none => .error (.invalidData "favorite upsert disappeared")
              | some favorite => .ok (db, favorite)

/-- What a committed transaction is answered with: the row read back. -/
def readBack (message : String) (key : ContentKey) (outcome : ProfileDb × StorageResult Unit) :
    ProfileDb × StorageResult Favorite :=
  match outcome with
  | (db, .error reason) => (db, .error reason)
  | (db, .ok _) =>
      (db, do
        match ← favoriteByKey db key with
        | none => .error (.invalidData message)
        | some favorite => .ok favorite)

def favoriteBody (key : ContentKey) (now : Int) (eventId : Uuid) (db : ProfileDb) :
    StorageResult (ProfileDb × Unit) := do
  let (db, _) ← favoriteFromHistoryTx key now eventId db
  .ok (db, ())

/-- Adds or reactivates a Favorite and its Outbox intent atomically. -/
def favorite (db : ProfileDb) (key : ContentKey) (now : Int) (eventId : Uuid) :
    ProfileDb × StorageResult Favorite :=
  readBack "favorite upsert disappeared" key
    (Transaction.atomically (favoriteBody key now eventId) db)

/-- The `UPDATE favorites` of `unfavorite`. -/
def tombstone (now : Int) (row : FavoriteRow) : FavoriteRow :=
  { row with
    snapshot := { row.snapshot with updatedAt := now }
    deletedAt := some now }

def deleteCoalesced (db : ProfileDb) (coalesceKey : CoalesceKey) : ProfileDb :=
  { db with syncOutbox := db.syncOutbox.delete (fun key _ => key = coalesceKey) }

def unfavoriteBody (key : ContentKey) (now : Int) (eventId : Uuid) (db : ProfileDb) :
    StorageResult (ProfileDb × Unit) := do
  match ← favoriteTx db key with
  | none => .error (.invalidData "favorite does not exist")
  | some favorite =>
      if favorite.deletedAt.isSome then .ok (db, ())
      else
        match db.queryStats.get key with
        | none => .error (.invalidData "favorite query stats are missing")
        | some stats =>
            let db := { db with
              favorites := db.favorites.update (fun other _ => other = key) (tombstone now) }
            let db := deleteCoalesced db (queryStatsCoalesceKey key db.profileMeta.deviceId)
            if favorite.entityRevision = 0 then
              .ok (deleteCoalesced db (favoriteCoalesceKey key), ())
            else do
              let db ← upsertFavoriteEvent db key "deleted" favorite.entityRevision stats now
                .favoriteDelete eventId
              .ok (db, ())

/-- Tombstones a Favorite and folds pending Outbox state according to its Server
revision. -/
def unfavorite (db : ProfileDb) (key : ContentKey) (now : Int) (eventId : Uuid) :
    ProfileDb × StorageResult Favorite :=
  readBack "favorite tombstone disappeared" key
    (Transaction.atomically (unfavoriteBody key now eventId) db)

/-- Clears History and removes `QueryStats` only for Content that never entered
the Favorite domain. -/
def clearHistory (db : ProfileDb) : ProfileDb :=
  { db with
    historyEntries := Table.empty
    queryStats := db.queryStats.delete (fun key _ => (db.favorites.get key).isNone) }

end Lvos.Storage
