import Lvos.Lib.Table
import Lvos.Lib.Transaction
import Lvos.Sync.Protocol
import Mathlib.Data.List.Sort

set_option autoImplicit false

namespace Lvos.Server

open Lvos.Sync
open Relational (Table)

/-- `event_fingerprint`: SHA-256 over the JSON encoding of the event. Both come
from outside the repository, so the digest stays a parameter; that two events
share a digest only when they are equal is what the idempotency table rests on. -/
class EventFingerprint (φ : Type) where
  eventFingerprint : PushEvent → φ
  collisionFree : Function.Injective eventFingerprint

export EventFingerprint (eventFingerprint)

/-- The event as its own digest, for evaluating a concrete run. -/
instance : EventFingerprint PushEvent := ⟨id, Function.injective_id⟩

inductive RepositoryError
  | database
  | notFound
deriving DecidableEq, Repr

structure SyncConflict where
  eventId : Option String
  current : Option FavoriteRecord
  latestRevision : Nat
deriving DecidableEq, Repr

inductive SyncRepositoryError
  | repository (error : RepositoryError)
  | conflict (conflict : SyncConflict)
  | invalidEvent
deriving DecidableEq, Repr

/-- `favorites` without its key columns; the columns from `kind` to `updated_at`
are the snapshot. -/
structure FavoriteRow where
  keyVersion : Nat
  favorite : FavoriteSnapshot
  deletedAt : Option Int
  entityRevision : Nat
  serverReceivedAt : Int
deriving DecidableEq, Repr

structure DeviceStatsRow where
  queryCount : Nat
  firstQueriedAt : Int
  lastQueriedAt : Int
  updatedAt : Int
deriving DecidableEq, Repr

structure ProcessedRow (φ : Type) where
  eventFingerprint : φ
  operation : String
  ackStatus : String
  entityRevision : Option Nat
  userRevision : Nat
  aggregateQueryCount : Option Nat
  aggregateFirstQueriedAt : Option Int
  aggregateLastQueriedAt : Option Int
  processedAt : Int
deriving DecidableEq

structure ChangeRow where
  contentKey : String
  entityRevision : Nat
  operation : String
  changedAt : Int
deriving DecidableEq, Repr

/-- The tables the sync endpoints read and write. `users` keeps `sync_revision`,
`devices` the `(user_id, device_id)` pairs the foreign key refers to. -/
structure ServerDb (φ : Type) where
  users : Table String Nat
  devices : List (String × String)
  favorites : Table (String × String) FavoriteRow
  deviceQueryStats : Table (String × String × String) DeviceStatsRow
  processedSyncEvents : Table (String × String) (ProcessedRow φ)
  changeLog : Table (String × Nat) ChangeRow
deriving DecidableEq

structure MutationResult (τ : Type) where
  value : τ
  changedRevision : Option Nat
deriving DecidableEq, Repr

structure EventOutcome where
  ack : PushAck
  changedRevision : Option Nat
deriving DecidableEq, Repr

abbrev RepositoryResult (τ : Type) := Except SyncRepositoryError τ

def database {τ : Type} : RepositoryResult τ := .error (.repository .database)

def operationName : SyncOperation → String
  | .favoriteUpsert => "favorite_upsert"
  | .favoriteDelete => "favorite_delete"
  | .queryStatsUpsert => "query_stats_upsert"

def parseOperation (value : String) : RepositoryResult SyncOperation :=
  if value = "favorite_upsert" then .ok .favoriteUpsert
  else if value = "favorite_delete" then .ok .favoriteDelete
  else if value = "query_stats_upsert" then .ok .queryStatsUpsert
  else .error .invalidEvent

/-- `i64::try_from` on the way into a column. -/
def toI64 (value : Nat) : RepositoryResult Nat :=
  if value < i64Limit then .ok value else .error .invalidEvent

/-- `u64::checked_add(1)`. -/
def checkedSucc (value : Nat) : RepositoryResult Nat :=
  if value + 1 < u64Limit then .ok (value + 1) else .error .invalidEvent

variable {φ : Type}

def userRevision (db : ServerDb φ) (userId : String) : RepositoryResult Nat :=
  match db.users.get userId with
  | some revision => .ok revision
  | none => database

def deviceStatsOf (db : ServerDb φ) (userId contentKey : String) : List DeviceStatsRow :=
  (db.deviceQueryStats.rows.filter
    (fun entry => entry.1.1 = userId ∧ entry.1.2.2 = contentKey)).map Prod.snd

/-- `SUM`, `MIN` and `MAX` over the devices; `SUM` fails when it leaves 64 bits. -/
def aggregateStats (db : ServerDb φ) (userId contentKey : String) :
    RepositoryResult (Option AggregateQueryStats) :=
  match deviceStatsOf db userId contentKey with
  | [] => .ok none
  | row :: rest =>
      let count := ((row :: rest).map DeviceStatsRow.queryCount).sum
      if count < i64Limit then
        .ok (some ⟨count,
          (rest.map DeviceStatsRow.firstQueriedAt).foldl min row.firstQueriedAt,
          (rest.map DeviceStatsRow.lastQueriedAt).foldl max row.lastQueriedAt⟩)
      else database

def recordOf (contentKey : String) (row : FavoriteRow)
    (aggregate : Option AggregateQueryStats) : FavoriteRecord :=
  ⟨contentKey, row.keyVersion, row.favorite, row.deletedAt, row.entityRevision,
    row.serverReceivedAt, aggregate⟩

def favoriteRecord (db : ServerDb φ) (userId contentKey : String) :
    RepositoryResult (Option FavoriteRecord) :=
  match db.favorites.get (userId, contentKey) with
  | none => .ok none
  | some row => do
      let aggregate ← aggregateStats db userId contentKey
      .ok (some (recordOf contentKey row aggregate))

/-- The `CHECK` constraints of `favorites` that an insert can violate. -/
def favoriteChecks (contentKey : String) (row : FavoriteRow) : Bool :=
  contentKey.length = 64 && 0 < row.keyVersion &&
    (row.favorite.kind = "word" || row.favorite.kind = "text") && 0 < row.entityRevision

def upsertFavorite (db : ServerDb φ) (userId : String) (event : PushEvent)
    (snapshot : FavoriteSnapshot) (entityRevision : Nat) (now : Int) :
    RepositoryResult (ServerDb φ) := do
  let entityRevision ← toI64 entityRevision
  let row : FavoriteRow := ⟨event.keyVersion, snapshot, none, entityRevision, now⟩
  if favoriteChecks event.contentKey row && (db.users.get userId).isSome then
    .ok { db with favorites := db.favorites.put (userId, event.contentKey) row }
  else database

/-- The `UPDATE favorites` of a delete event and of a state patch: it touches no
text column. -/
def stateRow (deletedAt : Option Int) (entityRevision : Nat) (now : Int) (row : FavoriteRow) :
    FavoriteRow :=
  { row with
    deletedAt := deletedAt
    favorite := { row.favorite with updatedAt := now }
    entityRevision := entityRevision
    serverReceivedAt := now }

def updateState (db : ServerDb φ) (userId contentKey : String) (deletedAt : Option Int)
    (entityRevision : Nat) (now : Int) : ServerDb φ :=
  { db with
    favorites := db.favorites.update (fun key _ => key = (userId, contentKey))
      (stateRow deletedAt entityRevision now) }

def mergedStats (existing : Option DeviceStatsRow) (stats : QueryStatsSnapshot) :
    DeviceStatsRow :=
  match existing with
  | none => ⟨stats.queryCount, stats.firstQueriedAt, stats.lastQueriedAt, stats.updatedAt⟩
  | some value =>
      ⟨max value.queryCount stats.queryCount, min value.firstQueriedAt stats.firstQueriedAt,
        max value.lastQueriedAt stats.lastQueriedAt, max value.updatedAt stats.updatedAt⟩

def mergeQueryStats (db : ServerDb φ) (userId deviceId contentKey : String)
    (stats : QueryStatsSnapshot) : RepositoryResult (ServerDb φ × Bool) := do
  let _ ← toI64 stats.queryCount
  let existing := db.deviceQueryStats.get (userId, deviceId, contentKey)
  let merged := mergedStats existing stats
  if existing = some merged then .ok (db, false)
  else if (userId, deviceId) ∈ db.devices ∧ (db.favorites.get (userId, contentKey)).isSome then
    .ok ({ db with deviceQueryStats :=
      db.deviceQueryStats.put (userId, deviceId, contentKey) merged }, true)
  else database

/-- Adds one to the user's `sync_revision` and logs the change under the new
value. Past 64 bits SQLite stores a real number and the read that follows fails. -/
def recordChange (db : ServerDb φ) (userId contentKey : String) (entityRevision : Nat)
    (operation : SyncOperation) (now : Int) : RepositoryResult (ServerDb φ × Nat) := do
  let revision := (← userRevision db userId) + 1
  if revision < i64Limit then
    let entityRevision ← toI64 entityRevision
    .ok ({ db with
      users := db.users.put userId revision
      changeLog := db.changeLog.put (userId, revision)
        ⟨contentKey, entityRevision, operationName operation, now⟩ }, revision)
  else database

def conflictWith (db : ServerDb φ) (userId : String) (eventId : Option String)
    (current : Option FavoriteRecord) {τ : Type} : RepositoryResult τ := do
  let latestRevision ← userRevision db userId
  .error (.conflict ⟨eventId, current, latestRevision⟩)

/-- The revision guard of a Favorite event. -/
def checkBase (db : ServerDb φ) (userId : String) (event : PushEvent)
    (current : Option FavoriteRecord) : RepositoryResult Unit :=
  match event.operation with
  | .favoriteUpsert | .favoriteDelete =>
      if (current.map FavoriteRecord.entityRevision).getD 0 = event.baseEntityRevision then .ok ()
      else conflictWith db userId (some event.eventId) current
  | .queryStatsUpsert => .ok ()

/-- The `match event.operation` of `apply_event`: the tables, the entity revision
and whether the entity changed. -/
def applyEntity (db : ServerDb φ) (userId : String) (event : PushEvent)
    (current : Option FavoriteRecord) (now : Int) :
    RepositoryResult (ServerDb φ × Option Nat × Bool) :=
  let entityRevision := current.map FavoriteRecord.entityRevision
  match event.operation with
  | .favoriteUpsert =>
      match event.favorite with
      | none => .error .invalidEvent
      | some snapshot => do
          let nextRevision ← checkedSucc (entityRevision.getD 0)
          if current.any (fun value => value.favorite = snapshot ∧ value.deletedAt = none) then
            .ok (db, entityRevision, false)
          else
            let db ← upsertFavorite db userId event snapshot nextRevision now
            .ok (db, some nextRevision, true)
  | .favoriteDelete =>
      if event.favorite.isSome then .error .invalidEvent
      else
        match current with
        | none => .error .invalidEvent
        | some value =>
            if value.deletedAt = none then do
              let nextRevision ← toI64 (← checkedSucc value.entityRevision)
              .ok (updateState db userId event.contentKey (some now) nextRevision now,
                some nextRevision, true)
            else .ok (db, entityRevision, false)
  | .queryStatsUpsert =>
      if event.favorite.isSome || current.isNone then .error .invalidEvent
      else .ok (db, entityRevision, false)

/-- The statistics part: the merge, the missing-statistics check of a
`query_stats_upsert` and the aggregate of the answer. -/
def applyStats (db : ServerDb φ) (userId deviceId : String) (event : PushEvent) :
    RepositoryResult (ServerDb φ × Bool × Option AggregateQueryStats) :=
  match event.queryStats with
  | none =>
      if event.operation = .queryStatsUpsert then .error .invalidEvent
      else .ok (db, false, none)
  | some stats => do
      let (db, statsChanged) ← mergeQueryStats db userId deviceId event.contentKey stats
      let aggregate ← aggregateStats db userId event.contentKey
      .ok (db, statsChanged, aggregate)

/-- The revision the answer names: a logged change, or the current one. -/
def finishChange (db : ServerDb φ) (userId : String) (event : PushEvent)
    (entityRevision : Option Nat) (changed : Bool) (now : Int) :
    RepositoryResult (ServerDb φ × Nat) :=
  if changed then
    match entityRevision with
    | none => .error .invalidEvent
    | some revision => recordChange db userId event.contentKey revision event.operation now
  else do
    let revision ← userRevision db userId
    .ok (db, revision)

def applyEvent (db : ServerDb φ) (userId deviceId : String) (event : PushEvent) (now : Int) :
    RepositoryResult (ServerDb φ × EventOutcome) := do
  let current ← favoriteRecord db userId event.contentKey
  checkBase db userId event current
  let (db, entityRevision, entityChanged) ← applyEntity db userId event current now
  let (db, statsChanged, aggregate) ← applyStats db userId deviceId event
  let changed := entityChanged || statsChanged
  let (db, revision) ← finishChange db userId event entityRevision changed now
  .ok (db, {
    ack := {
      eventId := event.eventId
      status := if changed then .applied else .noChange
      entityRevision := if event.operation = .queryStatsUpsert then none else entityRevision
      userRevision := revision
      aggregateQueryStats := aggregate }
    changedRevision := if changed then some revision else none })

def ackAggregate (row : ProcessedRow φ) : RepositoryResult (Option AggregateQueryStats) :=
  match row.aggregateQueryCount, row.aggregateFirstQueriedAt, row.aggregateLastQueriedAt with
  | some count, some first, some last => .ok (some ⟨count, first, last⟩)
  | none, none, none => .ok none
  | _, _, _ => .error .invalidEvent

def processedAck [DecidableEq φ] (db : ServerDb φ) (userId : String) (event : PushEvent)
    (fingerprint : φ) : RepositoryResult (Option PushAck) :=
  match db.processedSyncEvents.get (userId, event.eventId) with
  | none => .ok none
  | some row =>
      if row.eventFingerprint ≠ fingerprint then .error .invalidEvent
      else do
        let aggregate ← ackAggregate row
        .ok (some {
          eventId := event.eventId
          status := if row.ackStatus = "applied" then .applied else .noChange
          entityRevision := row.entityRevision
          userRevision := row.userRevision
          aggregateQueryStats := aggregate })

/-- `Option::map(i64::try_from).transpose()`. -/
def optionalI64 : Option Nat → RepositoryResult (Option Nat)
  | none => .ok none
  | some value => do
      let value ← toI64 value
      .ok (some value)

/-- The row `store_ack` inserts. -/
def ackRow (event : PushEvent) (fingerprint : φ) (ack : PushAck) (now : Int) : ProcessedRow φ where
  eventFingerprint := fingerprint
  operation := operationName event.operation
  ackStatus := if ack.status = .applied then "applied" else "no_change"
  entityRevision := ack.entityRevision
  userRevision := ack.userRevision
  aggregateQueryCount := ack.aggregateQueryStats.map AggregateQueryStats.queryCount
  aggregateFirstQueriedAt := ack.aggregateQueryStats.map AggregateQueryStats.firstQueriedAt
  aggregateLastQueriedAt := ack.aggregateQueryStats.map AggregateQueryStats.lastQueriedAt
  processedAt := now

/-- A plain `INSERT`: a second row for the key violates the primary key. -/
def storeAck (db : ServerDb φ) (userId : String) (event : PushEvent) (fingerprint : φ)
    (ack : PushAck) (now : Int) : RepositoryResult (ServerDb φ) := do
  let _ ← optionalI64 ack.entityRevision
  let _ ← toI64 ack.userRevision
  let _ ← optionalI64 (ack.aggregateQueryStats.map AggregateQueryStats.queryCount)
  if (db.processedSyncEvents.get (userId, event.eventId)).isSome then database
  else
    .ok { db with
      processedSyncEvents := db.processedSyncEvents.put (userId, event.eventId)
        (ackRow event fingerprint ack now) }

/-- `Option::max` on revisions, `None` below every `Some`. -/
def maxRevision : Option Nat → Option Nat → Option Nat
  | none, right => right
  | left, none => left
  | some left, some right => some (max left right)

section Push

variable [DecidableEq φ] [EventFingerprint φ]

/-- One turn of the loop of `push_events`. -/
def pushEvent (db : ServerDb φ) (userId deviceId : String) (event : PushEvent) (now : Int) :
    RepositoryResult (ServerDb φ × EventOutcome) := do
  let fingerprint : φ := eventFingerprint event
  match ← processedAck db userId event fingerprint with
  | some ack => .ok (db, ⟨ack, none⟩)
  | none =>
      let (db, outcome) ← applyEvent db userId deviceId event now
      let db ← storeAck db userId event fingerprint outcome.ack now
      .ok (db, outcome)

def pushLoop (userId deviceId : String) (now : Int) :
    List PushEvent → ServerDb φ → RepositoryResult (ServerDb φ × List PushAck × Option Nat)
  | [], db => .ok (db, [], none)
  | event :: rest, db => do
      let (db, outcome) ← pushEvent db userId deviceId event now
      let (db, acknowledgements, changedRevision) ← pushLoop userId deviceId now rest db
      .ok (db, outcome.ack :: acknowledgements,
        maxRevision outcome.changedRevision changedRevision)

def pushBody (userId deviceId : String) (events : List PushEvent) (now : Int)
    (db : ServerDb φ) : RepositoryResult (ServerDb φ × MutationResult PushResponse) := do
  let (db, acknowledgements, changedRevision) ← pushLoop userId deviceId now events db
  let latestRevision ← userRevision db userId
  .ok (db, ⟨⟨acknowledgements, latestRevision⟩, changedRevision⟩)

def pushEvents (db : ServerDb φ) (userId deviceId : String) (events : List PushEvent)
    (now : Int) : ServerDb φ × RepositoryResult (MutationResult PushResponse) :=
  Transaction.atomically (pushBody userId deviceId events now) db

end Push

/-- The write of `set_favorite_state`, skipped when the state already is the asked one. -/
def patchState (db : ServerDb φ) (userId contentKey : String) (active : Bool)
    (current : FavoriteRecord) (now : Int) : RepositoryResult (ServerDb φ × Option Nat) :=
  if current.deletedAt.isNone = active then .ok (db, none)
  else do
    let entityRevision ← toI64 (← checkedSucc current.entityRevision)
    let db := updateState db userId contentKey (if active then none else some now)
      entityRevision now
    let (db, revision) ← recordChange db userId contentKey entityRevision
      (if active then .favoriteUpsert else .favoriteDelete) now
    .ok (db, some revision)

def setStateBody (userId contentKey : String) (active : Bool) (baseEntityRevision : Nat)
    (now : Int) (db : ServerDb φ) :
    RepositoryResult (ServerDb φ × MutationResult FavoriteRecord) := do
  match ← favoriteRecord db userId contentKey with
  | none => .error (.repository .notFound)
  | some current =>
      if current.entityRevision ≠ baseEntityRevision then
        conflictWith db userId none (some current)
      else
        let (db, changedRevision) ← patchState db userId contentKey active current now
        match ← favoriteRecord db userId contentKey with
        | none => .error .invalidEvent
        | some result => .ok (db, ⟨result, changedRevision⟩)

def setFavoriteState (db : ServerDb φ) (userId contentKey : String) (active : Bool)
    (baseEntityRevision : Nat) (now : Int) :
    ServerDb φ × RepositoryResult (MutationResult FavoriteRecord) :=
  Transaction.atomically (setStateBody userId contentKey active baseEntityRevision now) db

/-- The rows of one page: the user's log above `since`, by revision, cut at `limit`. -/
def pageRows (db : ServerDb φ) (userId : String) (since limit : Nat) : List (Nat × ChangeRow) :=
  (((db.changeLog.rows.filter (fun entry => entry.1.1 = userId ∧ since < entry.1.2)).map
    (fun entry => (entry.1.2, entry.2))).insertionSort
      (fun first second => first.1 ≤ second.1)).take limit

def pageChanges (db : ServerDb φ) (userId : String) :
    List (Nat × ChangeRow) → RepositoryResult (List SyncChange)
  | [] => .ok []
  | (revision, row) :: rest => do
      match ← favoriteRecord db userId row.contentKey with
      | none => .error .invalidEvent
      | some favorite =>
          let operation ← parseOperation row.operation
          let changes ← pageChanges db userId rest
          .ok (⟨revision, operation, favorite⟩ :: changes)

def changesSince (db : ServerDb φ) (userId : String) (since limit : Nat) :
    RepositoryResult ChangesResponse := do
  let latestRevision ← userRevision db userId
  let since ← toI64 since
  let limit ← toI64 limit
  let changes ← pageChanges db userId (pageRows db userId since limit)
  let nextRevision := (changes.getLast?.map SyncChange.revision).getD since
  .ok ⟨changes, nextRevision, latestRevision, decide (nextRevision < latestRevision)⟩

/-- `ORDER BY favorited_at DESC, content_key`. -/
def activeKeys (db : ServerDb φ) (userId : String) : List String :=
  ((db.favorites.rows.filter
    (fun entry => entry.1.1 = userId ∧ entry.2.deletedAt = none)).insertionSort
      (fun first second => second.2.favorite.favoritedAt < first.2.favorite.favoritedAt ∨
        (first.2.favorite.favoritedAt = second.2.favorite.favoritedAt ∧
          first.1.2 ≤ second.1.2))).map (fun entry => entry.1.2)

def activeRecords (db : ServerDb φ) (userId : String) :
    List String → RepositoryResult (List FavoriteRecord)
  | [] => .ok []
  | key :: rest => do
      match ← favoriteRecord db userId key with
      | none => .error .invalidEvent
      | some favorite =>
          let favorites ← activeRecords db userId rest
          .ok (favorite :: favorites)

def activeFavorites (db : ServerDb φ) (userId : String) :
    RepositoryResult (List FavoriteRecord × Nat) := do
  let favorites ← activeRecords db userId (activeKeys db userId)
  let revision ← userRevision db userId
  .ok (favorites, revision)

end Lvos.Server
