import Lvos.Storage.Profile
import Mathlib.Data.List.Sort
import Mathlib.Data.String.Basic

set_option autoImplicit false

namespace Lvos.Storage

open Lvos.Core Lvos.Sync
open Relational (Table)

def maxRemoteContentCharacters : Nat := 16384

def conflictError : String := "favorite_conflict"

structure AcknowledgedEvent where
  event : OutboxEvent
  acknowledgement : PushAck
  sentQueryCount : Option Nat
deriving DecidableEq

inductive ConflictResolution
  | converged
  | replayPrepared
  | manualRetryRequired
deriving DecidableEq, Repr

def u32Limit : Nat := 2 ^ 32

/-- The counters are read as `u32`; the other columns were written from typed values. -/
def parseOutbox (coalesceKey : CoalesceKey) (row : OutboxRow) : StorageResult OutboxEvent :=
  if u32Limit ≤ row.attemptCount then .error (.invalidData "negative attempt count")
  else if u32Limit ≤ row.conflictReplayCount then
    .error (.invalidData "negative conflict replay count")
  else .ok ⟨row, coalesceKey⟩

/-- The `WHERE` of `ready_outbox_events`. -/
def outboxReady (now : Int) (row : OutboxRow) : Bool :=
  row.nextRetryAt.all (fun retryAt => retryAt ≤ now) &&
    row.lastError.all (fun reason => reason ≠ conflictError)

/-- `ORDER BY created_at, event_id`: texts compare byte by byte. -/
def OutboxRow.Precedes (first second : OutboxRow) : Prop :=
  first.createdAt < second.createdAt ∨
    (first.createdAt = second.createdAt ∧ first.eventId.text ≤ second.eventId.text)

instance (first second : OutboxRow) : Decidable (first.Precedes second) :=
  inferInstanceAs (Decidable (_ ∨ _))

def readyRows (db : ProfileDb) (now : Int) (limit : Nat) : List (CoalesceKey × OutboxRow) :=
  ((db.syncOutbox.rows.filter (fun entry => outboxReady now entry.2)).insertionSort
    (fun first second => first.2.Precedes second.2)).take limit

def parseOutboxRows : List (CoalesceKey × OutboxRow) → StorageResult (List OutboxEvent)
  | [] => .ok []
  | entry :: rest => do
      let event ← parseOutbox entry.1 entry.2
      let events ← parseOutboxRows rest
      .ok (event :: events)

/-- Lists a bounded retry-ready Outbox batch without loading the complete queue. -/
def readyOutboxEvents (db : ProfileDb) (now : Int) (limit : Nat) :
    StorageResult (List OutboxEvent) :=
  if limit = 0 then .error (.invalidData "Outbox batch limit is zero")
  else parseOutboxRows (readyRows db now limit)

def protocolSnapshot (favorite : Favorite) : FavoriteSnapshot where
  kind := favorite.content.kind.protocolName
  sourceLang := favorite.content.sourceLang.text
  targetLang := favorite.translation.targetLang.text
  sourceText := favorite.content.sourceText
  canonicalText := favorite.content.canonicalText
  translation := favorite.translation.translation
  provider := favorite.translation.provider
  favoritedAt := favorite.createdAt
  updatedAt := favorite.updatedAt

def protocolOperation : OutboxOperation → SyncOperation
  | .favoriteUpsert => .favoriteUpsert
  | .favoriteDelete => .favoriteDelete
  | .queryStatsUpsert => .queryStatsUpsert

/-- The statistics a push carries: none for a Device that never queried. -/
def sentStats (stats : Option QueryStats) : Option QueryStatsSnapshot :=
  match stats with
  | none => none
  | some value =>
      if 0 < value.deviceQueryCount then
        some ⟨value.deviceQueryCount, value.firstQueriedAt, value.lastQueriedAt,
          value.lastQueriedAt⟩
      else none

def sentSnapshot (operation : OutboxOperation) (favorite : Option Favorite) :
    StorageResult (Option FavoriteSnapshot) :=
  match operation with
  | .favoriteUpsert =>
      match favorite.filter (fun value => value.deletedAt.isNone) with
      | some value => .ok (some (protocolSnapshot value))
      | none => .error (.invalidData "active Favorite is missing")
  | .favoriteDelete | .queryStatsUpsert => .ok none

/-- Converts a persisted Outbox intent into the current V1 protocol snapshot. -/
def pushEvent (db : ProfileDb) (event : OutboxEvent) : StorageResult PushEvent := do
  let favorite ← favoriteByKey db event.contentKey
  let queryStats := sentStats (db.queryStats.get event.contentKey)
  let favoriteSnapshot ← sentSnapshot event.operation favorite
  if event.operation = .queryStatsUpsert ∧ queryStats = none then
    .error (.invalidData "sync QueryStats are missing")
  else
    .ok {
      eventId := event.eventId.text
      operation := protocolOperation event.operation
      contentKey := event.contentKey.toHex
      keyVersion := (favorite.map (fun value => value.content.keyVersion)).getD contentKeyVersion
      baseEntityRevision := event.baseEntityRevision.getD 0
      favorite := favoriteSnapshot
      queryStats := queryStats }

/-- `UPDATE favorites SET entity_revision`. -/
def setEntityRevision (db : ProfileDb) (key : ContentKey) (revision : Nat) : ProfileDb :=
  { db with
    favorites := db.favorites.update (fun other _ => other = key)
      (fun row => { row with entityRevision := revision }) }

def updateOutbox (db : ProfileDb) (selects : CoalesceKey → OutboxRow → Bool)
    (change : OutboxRow → OutboxRow) : ProfileDb :=
  { db with syncOutbox := db.syncOutbox.update selects change }

def isFavoriteOperation : OutboxOperation → Bool
  | .favoriteUpsert | .favoriteDelete => true
  | .queryStatsUpsert => false

/-- The two `UPDATE`s an acknowledged entity revision makes: the local row, and
the base of a newer intent for the same content. -/
def acknowledgeRevision (db : ProfileDb) (event : OutboxEvent) (revision : Nat) : ProfileDb :=
  updateOutbox (setEntityRevision db event.contentKey revision)
    (fun _ row => row.contentKey = event.contentKey && row.eventId ≠ event.eventId &&
      isFavoriteOperation row.operation)
    (fun row => { row with baseEntityRevision := some revision })

def aggregated (stats : QueryStats) (aggregate : AggregateQueryStats) (sent : Nat) (now : Int) :
    QueryStats :=
  { stats with
    lastSyncedDeviceQueryCount := max stats.lastSyncedDeviceQueryCount sent
    serverTotalQueryCount := aggregate.queryCount
    serverFirstQueriedAt := some aggregate.firstQueriedAt
    serverLastQueriedAt := some aggregate.lastQueriedAt
    serverSnapshotAt := some now }

def updateAggregate (db : ProfileDb) (key : ContentKey) (aggregate : AggregateQueryStats)
    (sentQueryCount : Option Nat) (now : Int) : StorageResult ProfileDb := do
  let existing := (db.queryStats.get key).getD
    ⟨0, aggregate.firstQueriedAt, aggregate.lastQueriedAt, 0, 0, none, none, none⟩
  let sent ← sqliteI64 (sentQueryCount.getD 0)
  let _ ← sqliteI64 aggregate.queryCount
  .ok { db with queryStats := db.queryStats.put key (aggregated existing aggregate sent now) }

def acknowledgeAggregate (db : ProfileDb) (item : AcknowledgedEvent) (now : Int) :
    StorageResult ProfileDb :=
  match item.acknowledgement.aggregateQueryStats with
  | none => .ok db
  | some aggregate => updateAggregate db item.event.contentKey aggregate item.sentQueryCount now

def acknowledgeEntity (db : ProfileDb) (item : AcknowledgedEvent) : StorageResult ProfileDb :=
  match item.acknowledgement.entityRevision with
  | none => .ok db
  | some revision => do
      let revision ← sqliteI64 revision
      .ok (acknowledgeRevision db item.event revision)

def deleteEvent (db : ProfileDb) (eventId : Uuid) : ProfileDb :=
  { db with syncOutbox := db.syncOutbox.delete (fun _ row => row.eventId = eventId) }

/-- One turn of the loop of `acknowledge_events`. -/
def acknowledgeEvent (db : ProfileDb) (item : AcknowledgedEvent) (now : Int) :
    StorageResult ProfileDb :=
  if item.acknowledgement.eventId ≠ item.event.eventId.text then
    .error (.invalidData "acknowledgement event mismatch")
  else do
    let db ← acknowledgeEntity db item
    let db ← acknowledgeAggregate db item now
    .ok (deleteEvent db item.event.eventId)

def acknowledgeLoop (now : Int) : ProfileDb → List AcknowledgedEvent → StorageResult ProfileDb
  | db, [] => .ok db
  | db, item :: rest => do
      let db ← acknowledgeEvent db item now
      acknowledgeLoop now db rest

def synchronizedAt (db : ProfileDb) (now : Int) : ProfileDb :=
  { db with profileMeta := { db.profileMeta with
      lastSuccessfulSyncAt := some now
      lastSyncError := none
      updatedAt := now } }

def acknowledgeBody (acknowledged : List AcknowledgedEvent) (now : Int) (db : ProfileDb) :
    StorageResult (ProfileDb × Unit) := do
  let db ← acknowledgeLoop now db acknowledged
  .ok (synchronizedAt db now, ())

/-- Applies exact event acknowledgements without deleting a newer coalesced local
intent. -/
def acknowledgeEvents (db : ProfileDb) (acknowledged : List AcknowledgedEvent) (now : Int) :
    ProfileDb × StorageResult Unit :=
  Transaction.atomically (acknowledgeBody acknowledged now) db

/-- The longest text of exactly `bytes` bytes that ends on a character boundary. -/
def takeBytes : Nat → List Char → Option (List Char)
  | 0, _ => some []
  | _ + 1, [] => none
  | bytes + 1, character :: rest =>
      if character.utf8Size ≤ bytes + 1 then
        (takeBytes (bytes + 1 - character.utf8Size) rest).map (fun text => character :: text)
      else none

def boundedError (error : String) : String :=
  match takeBytes (min error.utf8ByteSize 512) error.toList with
  | some text => String.ofList text
  | none => error

def setSyncError (db : ProfileDb) (error : String) (now : Int) : ProfileDb :=
  { db with profileMeta := { db.profileMeta with
      lastSyncError := some (boundedError error)
      updatedAt := now } }

/-- Persists bounded retry metadata for a failed batch. -/
def markRetry (db : ProfileDb) (events : List OutboxEvent) (nextRetryAt : Int) (error : String)
    (now : Int) : ProfileDb :=
  setSyncError
    (events.foldl (fun db event =>
      updateOutbox db (fun _ row => row.eventId = event.eventId) (fun row => { row with
        attemptCount := row.attemptCount + 1
        nextRetryAt := some nextRetryAt
        lastError := some (boundedError error)
        updatedAt := now })) db) error now

def localFavorite (db : ProfileDb) (key : ContentKey) : StorageResult (Option Favorite) :=
  match db.favorites.get key with
  | none => .ok none
  | some row => do
      let favorite ← readFavorite "source language" "target language" key row
      .ok (some favorite)

def desiredConverged (operation : OutboxOperation) (localValue : Favorite)
    (remote : FavoriteRecord) : Bool :=
  match operation with
  | .favoriteDelete => remote.deletedAt.isSome
  | .favoriteUpsert => remote.deletedAt.isNone && protocolSnapshot localValue = remote.favorite
  | .queryStatsUpsert => false

def updateAggregateFromRecord (db : ProfileDb) (remote : FavoriteRecord) (now : Int) :
    StorageResult ProfileDb :=
  match remote.aggregateQueryStats with
  | none => .ok db
  | some aggregate => do
      let key ← parseContentKey remote.contentKey
      updateAggregate db key aggregate none now

/-- The `favorites` columns a remote record brings. -/
def remoteRow (remote : FavoriteRecord) : FavoriteRow :=
  ⟨remote.keyVersion, remote.favorite, remote.deletedAt, remote.entityRevision⟩

/-- The `CHECK` on `kind`. -/
def kindAllowed (kind : String) : Bool := kind = "word" || kind = "text"

def writeRemoteFavorite (db : ProfileDb) (remote : FavoriteRecord) (now : Int) :
    StorageResult ProfileDb := do
  let key ← parseContentKey remote.contentKey
  let _ ← sqliteI64 remote.entityRevision
  if kindAllowed remote.favorite.kind then
    let db := { db with favorites := db.favorites.put key (remoteRow remote) }
    let db ← updateAggregateFromRecord db remote now
    if (db.queryStats.get key).isSome then .ok db
    else
      let baseline := (remote.aggregateQueryStats.map AggregateQueryStats.firstQueriedAt).getD
        remote.favorite.favoritedAt
      let db := { db with
        queryStats := db.queryStats.put key ⟨0, baseline, baseline, 0, 0, none, none, none⟩ }
      updateAggregateFromRecord db remote now
  else .error .sqlite

/-- `UPDATE sync_outbox SET base_entity_revision` on the pending Favorite intent. -/
def rebase (db : ProfileDb) (key : ContentKey) (revision : Nat) (now : Int) : ProfileDb :=
  updateOutbox db (fun coalesceKey _ => coalesceKey = favoriteCoalesceKey key)
    (fun row => { row with
      baseEntityRevision := some revision
      updatedAt := now })

def markManualConflict (db : ProfileDb) (key : ContentKey) (now : Int) : ProfileDb :=
  let db := updateOutbox db (fun coalesceKey _ => coalesceKey = favoriteCoalesceKey key)
    (fun row => { row with
      lastError := some conflictError
      nextRetryAt := none
      updatedAt := now })
  { db with profileMeta := { db.profileMeta with
      lastSyncError := some conflictError
      updatedAt := now } }

/-- The replay `UPDATE` of `resolve_conflict`. -/
def prepareReplay (db : ProfileDb) (key : ContentKey) (revision : Nat) (now : Int) : ProfileDb :=
  updateOutbox db (fun coalesceKey _ => coalesceKey = favoriteCoalesceKey key)
    (fun row => { row with
      baseEntityRevision := some revision
      conflictReplayCount := 1
      attemptCount := 0
      nextRetryAt := none
      lastError := none
      updatedAt := now })

/-- The part of `resolve_conflict` after the convergence test failed. -/
def replayConflict (db : ProfileDb) (event : OutboxEvent) (current : Option FavoriteRecord)
    (now : Int) : StorageResult (ProfileDb × ConflictResolution) :=
  match current with
  | none => .ok (markManualConflict db event.contentKey now, .manualRetryRequired)
  | some remote =>
      match db.syncOutbox.get (favoriteCoalesceKey event.contentKey) with
      | none => .error (.invalidData "conflicted Outbox intent is missing")
      | some row => do
          let db ← updateAggregateFromRecord db remote now
          if row.conflictReplayCount = 0 then
            let revision ← sqliteI64 remote.entityRevision
            .ok (prepareReplay (setEntityRevision db event.contentKey revision) event.contentKey
              revision now, .replayPrepared)
          else .ok (markManualConflict db event.contentKey now, .manualRetryRequired)

def resolveConflictBody (event : OutboxEvent) (current : Option FavoriteRecord) (now : Int)
    (db : ProfileDb) : StorageResult (ProfileDb × ConflictResolution) :=
  if isFavoriteOperation event.operation then do
    match ← localFavorite db event.contentKey with
    | none => .error (.invalidData "conflicted Favorite is missing")
    | some localValue =>
        match current.filter (fun remote => desiredConverged event.operation localValue remote) with
        | some remote =>
            let db ← writeRemoteFavorite db remote now
            .ok (deleteCoalesced db (favoriteCoalesceKey event.contentKey), .converged)
        | none => replayConflict db event current now
  else .error (.invalidData "QueryStats cannot have a Favorite conflict")

/-- Rebases the last local Favorite intent at most once against a Server conflict. -/
def resolveConflict (db : ProfileDb) (event : OutboxEvent) (current : Option FavoriteRecord)
    (now : Int) : ProfileDb × StorageResult ConflictResolution :=
  Transaction.atomically (resolveConflictBody event current now) db

section Remote

variable [ContentTables]

def validateRemote (remote : FavoriteRecord) : StorageResult Unit := do
  if remote.keyVersion ≠ contentKeyVersion ∨ remote.entityRevision = 0 then
    .error (.invalidData "remote Favorite version is invalid")
  else
    let sourceLang ← parseLanguage "remote source language" remote.favorite.sourceLang
    let _ ← parseLanguage "remote target language" remote.favorite.targetLang
    match prepareContent remote.favorite.sourceText sourceLang maxRemoteContentCharacters with
    | .error _ => .error (.invalidData "remote source content")
    | .ok prepared =>
        if prepared.contentKey.toHex ≠ remote.contentKey ∨
            prepared.canonicalText ≠ remote.favorite.canonicalText ∨
            prepared.kind.protocolName ≠ remote.favorite.kind then
          .error (.invalidData "remote content identity mismatch")
        else .ok ()

/-- The branch of `apply_remote_change` for a content with a pending intent. -/
def applyRemotePending (db : ProfileDb) (key : ContentKey) (operation : OutboxOperation)
    (remote : FavoriteRecord) (now : Int) : StorageResult ProfileDb := do
  match ← localFavorite db key with
  | none => .error (.invalidData "pending Favorite is missing")
  | some localValue =>
      if desiredConverged operation localValue remote then
        let db ← writeRemoteFavorite db remote now
        .ok (deleteCoalesced db (favoriteCoalesceKey key))
      else
        let revision ← sqliteI64 remote.entityRevision
        updateAggregateFromRecord (rebase (setEntityRevision db key revision) key revision now)
          remote now

def applyRemoteChange (db : ProfileDb) (change : SyncChange) (now : Int) :
    StorageResult ProfileDb := do
  validateRemote change.favorite
  let key ← parseContentKey change.favorite.contentKey
  match db.syncOutbox.get (favoriteCoalesceKey key) with
  | some row => applyRemotePending db key row.operation change.favorite now
  | none => writeRemoteFavorite db change.favorite now

/-- The loop of `apply_remote_page`: the tables and the last revision applied. -/
def applyRemoteLoop (nextRevision : Nat) (now : Int) :
    ProfileDb → Nat → List SyncChange → StorageResult (ProfileDb × Nat)
  | db, expected, [] => .ok (db, expected)
  | db, expected, change :: rest => do
      if u64Limit ≤ expected + 1 then .error (.invalidData "remote revision overflow")
      else if change.revision ≠ expected + 1 ∨ nextRevision < change.revision then
        .error (.invalidData "remote change revision is invalid")
      else
        let db ← applyRemoteChange db change now
        applyRemoteLoop nextRevision now db change.revision rest

def advanceCursor (db : ProfileDb) (nextRevision : Nat) : ProfileDb :=
  { db with profileMeta := { db.profileMeta with lastServerRevision := nextRevision } }

def applyRemotePageBody (changes : List SyncChange) (nextRevision : Nat) (now : Int)
    (db : ProfileDb) : StorageResult (ProfileDb × Unit) := do
  let cursor := db.profileMeta.lastServerRevision
  if nextRevision < cursor then .error (.invalidData "remote cursor moved backwards")
  else
    let (db, expected) ← applyRemoteLoop nextRevision now db cursor changes
    if expected ≠ nextRevision then .error (.invalidData "remote page cursor is inconsistent")
    else
      let nextRevision ← sqliteI64 nextRevision
      .ok (synchronizedAt (advanceCursor db nextRevision) now, ())

/-- Applies one bounded page and advances the durable cursor in the same
transaction. -/
def applyRemotePage (db : ProfileDb) (changes : List SyncChange) (nextRevision : Nat)
    (now : Int) : ProfileDb × StorageResult Unit :=
  Transaction.atomically (applyRemotePageBody changes nextRevision now) db

end Remote

end Lvos.Storage
