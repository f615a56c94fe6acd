import Lvos.Server.Repository

set_option autoImplicit false

namespace Lvos.Server

open Lvos.Sync
open Relational (Table)
open Transaction (bind_ok_iff)

variable {φ : Type}

theorem toI64_ok {value result : Nat} (success : toI64 value = .ok result) :
    result = value ∧ value < i64Limit := by
  unfold toI64 at success
  split at success
  · exact ⟨(Except.ok.inj success).symm, ‹_›⟩
  · cases success

theorem checkedSucc_ok {value result : Nat} (success : checkedSucc value = .ok result) :
    result = value + 1 := by
  unfold checkedSucc at success
  split at success
  · exact (Except.ok.inj success).symm
  · cases success

theorem userRevision_ok {db : ServerDb φ} {userId : String} {revision : Nat}
    (success : userRevision db userId = .ok revision) : db.users.get userId = some revision := by
  unfold userRevision at success
  split at success
  · rename_i found stored
    rw [stored, Except.ok.inj success]
  · cases success

theorem favoriteRecord_ok {db : ServerDb φ} {userId contentKey : String}
    {current : Option FavoriteRecord}
    (success : favoriteRecord db userId contentKey = .ok current) :
    (db.favorites.get (userId, contentKey) = none ∧ current = none) ∨
      ∃ row aggregate, db.favorites.get (userId, contentKey) = some row ∧
        aggregateStats db userId contentKey = .ok aggregate ∧
        current = some (recordOf contentKey row aggregate) := by
  unfold favoriteRecord at success
  split at success
  · exact Or.inl ⟨‹_›, (Except.ok.inj success).symm⟩
  · rename_i row stored
    obtain ⟨aggregate, counted, same⟩ := bind_ok_iff.mp success
    exact Or.inr ⟨row, aggregate, stored, counted, (Except.ok.inj same).symm⟩

/-- The revision a missing row counts as. -/
def revisionOf (row : Option FavoriteRow) : Nat :=
  (row.map FavoriteRow.entityRevision).getD 0

@[simp] theorem revisionOf_none : revisionOf none = 0 := rfl

@[simp] theorem revisionOf_some (row : FavoriteRow) : revisionOf (some row) = row.entityRevision :=
  rfl

/-- A server row that already has the state a Favorite event asks for. -/
def Satisfies (event : PushEvent) (row : Option FavoriteRow) : Prop :=
  match event.operation with
  | .favoriteUpsert => ∃ value, row = some value ∧ value.deletedAt = none ∧
      event.favorite = some value.favorite
  | .favoriteDelete => ∃ value, row = some value ∧ value.deletedAt.isSome
  | .queryStatsUpsert => True

/-- One change was logged for the user, under the next revision. -/
def Logged (db next : ServerDb φ) (userId contentKey : String) (entityRevision : Nat)
    (operation : SyncOperation) (now : Int) : Prop :=
  ∃ revision, db.users.get userId = some revision ∧ revision + 1 < i64Limit ∧
    next.users = db.users.put userId (revision + 1) ∧
    next.changeLog = db.changeLog.put (userId, revision + 1)
      ⟨contentKey, entityRevision, operationName operation, now⟩

/-- Everything one event or one state patch can do to the favorites, the user
revisions and the change log. -/
inductive Move (db next : ServerDb φ) (userId contentKey : String) (operation : SyncOperation)
    (now : Int) : Prop
  | quiet (favorites : next.favorites = db.favorites) (users : next.users = db.users)
      (changeLog : next.changeLog = db.changeLog)
  | stats (row : FavoriteRow) (present : db.favorites.get (userId, contentKey) = some row)
      (favorites : next.favorites = db.favorites)
      (log : Logged db next userId contentKey row.entityRevision operation now)
  | entity (fresh : FavoriteRow)
      (advanced : fresh.entityRevision =
        revisionOf (db.favorites.get (userId, contentKey)) + 1)
      (favorites : ∀ key, next.favorites.get key =
        if key = (userId, contentKey) then some fresh else db.favorites.get key)
      (log : Logged db next userId contentKey fresh.entityRevision operation now)

theorem recordChange_ok {db next : ServerDb φ} {userId contentKey : String}
    {entityRevision revision : Nat} {operation : SyncOperation} {now : Int}
    (success : recordChange db userId contentKey entityRevision operation now =
      .ok (next, revision)) :
    ∃ previous, db.users.get userId = some previous ∧ revision = previous + 1 ∧
      previous + 1 < i64Limit ∧
      next = { db with
        users := db.users.put userId (previous + 1)
        changeLog := db.changeLog.put (userId, previous + 1)
          ⟨contentKey, entityRevision, operationName operation, now⟩ } := by
  unfold recordChange at success
  obtain ⟨previous, stored, rest⟩ := bind_ok_iff.mp success
  dsimp only at rest
  split at rest
  · rename_i inside
    obtain ⟨entity, fits, same⟩ := bind_ok_iff.mp rest
    obtain ⟨rfl, -⟩ := toI64_ok fits
    have pair := Prod.mk.inj (Except.ok.inj same)
    exact ⟨previous, userRevision_ok stored, pair.2.symm, inside, pair.1.symm⟩
  · cases rest

theorem upsertFavorite_ok {db next : ServerDb φ} {userId : String} {event : PushEvent}
    {snapshot : FavoriteSnapshot} {entityRevision : Nat} {now : Int}
    (success : upsertFavorite db userId event snapshot entityRevision now = .ok next) :
    next = { db with
      favorites := db.favorites.put (userId, event.contentKey)
        ⟨event.keyVersion, snapshot, none, entityRevision, now⟩ } := by
  unfold upsertFavorite at success
  obtain ⟨revision, fits, rest⟩ := bind_ok_iff.mp success
  obtain ⟨rfl, -⟩ := toI64_ok fits
  dsimp only at rest
  split at rest
  · exact (Except.ok.inj rest).symm
  · cases rest

theorem mergeQueryStats_ok {db next : ServerDb φ} {userId deviceId contentKey : String}
    {stats : QueryStatsSnapshot} {changed : Bool}
    (success : mergeQueryStats db userId deviceId contentKey stats = .ok (next, changed)) :
    (changed = false ∧ next = db) ∨
      (changed = true ∧ (db.favorites.get (userId, contentKey)).isSome ∧
        next = { db with
          deviceQueryStats := db.deviceQueryStats.put (userId, deviceId, contentKey)
            (mergedStats (db.deviceQueryStats.get (userId, deviceId, contentKey)) stats) }) := by
  unfold mergeQueryStats at success
  obtain ⟨count, -, rest⟩ := bind_ok_iff.mp success
  dsimp only at rest
  split at rest
  · have pair := Prod.mk.inj (Except.ok.inj rest)
    exact Or.inl ⟨pair.2.symm, pair.1.symm⟩
  · split at rest
    · rename_i allowed
      have pair := Prod.mk.inj (Except.ok.inj rest)
      exact Or.inr ⟨pair.2.symm, allowed.2, pair.1.symm⟩
    · cases rest

theorem applyStats_ok {db next : ServerDb φ} {userId deviceId : String} {event : PushEvent}
    {changed : Bool} {aggregate : Option AggregateQueryStats}
    (success : applyStats db userId deviceId event = .ok (next, changed, aggregate)) :
    (changed = false ∧ next = db) ∨
      (changed = true ∧ (db.favorites.get (userId, event.contentKey)).isSome ∧
        ∃ table, next = { db with deviceQueryStats := table }) := by
  unfold applyStats at success
  split at success
  · split at success
    · cases success
    · have same := Except.ok.inj success
      simp only [Prod.mk.injEq] at same
      exact Or.inl ⟨same.2.1.symm, same.1.symm⟩
  · obtain ⟨⟨merged, altered⟩, mergeOk, rest⟩ := bind_ok_iff.mp success
    obtain ⟨total, -, same⟩ := bind_ok_iff.mp rest
    have same := Except.ok.inj same
    simp only [Prod.mk.injEq] at same
    obtain ⟨rfl, rfl, -⟩ := same
    rcases mergeQueryStats_ok mergeOk with unchanged | ⟨changed, present, table⟩
    · exact Or.inl unchanged
    · exact Or.inr ⟨changed, present, _, table⟩

/-- A Favorite event passes the guard only when it names the stored revision. -/
theorem checkBase_ok {db : ServerDb φ} {userId : String} {event : PushEvent}
    {current : Option FavoriteRecord} (success : checkBase db userId event current = .ok ())
    (favorite : event.operation ≠ .queryStatsUpsert) :
    (current.map FavoriteRecord.entityRevision).getD 0 = event.baseEntityRevision := by
  unfold checkBase conflictWith at success
  split at success
  · split at success
    · assumption
    · obtain ⟨latest, -, impossible⟩ := bind_ok_iff.mp success
      cases impossible
  · split at success
    · assumption
    · obtain ⟨latest, -, impossible⟩ := bind_ok_iff.mp success
      cases impossible
  · rename_i stats
    exact absurd stats favorite

/-- What the operation's branch of `apply_event` leaves: nothing when the row
already has the asked state, otherwise one row at the next revision. -/
inductive EntityMove (db next : ServerDb φ) (userId : String) (event : PushEvent)
    (entityRevision : Option Nat) : Bool → Prop
  | same (unchanged : next = db)
      (revision : entityRevision =
        (db.favorites.get (userId, event.contentKey)).map FavoriteRow.entityRevision)
      (present : (db.favorites.get (userId, event.contentKey)).isSome)
      (satisfied : Satisfies event (db.favorites.get (userId, event.contentKey))) :
      EntityMove db next userId event entityRevision false
  | fresh (row : FavoriteRow) (table : Table (String × String) FavoriteRow)
      (favorite : event.operation ≠ .queryStatsUpsert)
      (advanced : row.entityRevision =
        revisionOf (db.favorites.get (userId, event.contentKey)) + 1)
      (revision : entityRevision = some row.entityRevision)
      (changed : next = { db with favorites := table })
      (favorites : ∀ key, table.get key =
        if key = (userId, event.contentKey) then some row else db.favorites.get key)
      (satisfied : Satisfies event (some row))
      (version : row.keyVersion = event.keyVersion ∨
        ∃ old, db.favorites.get (userId, event.contentKey) = some old ∧
          row.keyVersion = old.keyVersion) :
      EntityMove db next userId event entityRevision true

theorem updateState_get (db : ServerDb φ) (userId contentKey : String) (deletedAt : Option Int)
    (entityRevision : Nat) (now : Int) {row : FavoriteRow}
    (present : db.favorites.get (userId, contentKey) = some row) (key : String × String) :
    (updateState db userId contentKey deletedAt entityRevision now).favorites.get key =
      if key = (userId, contentKey) then some (stateRow deletedAt entityRevision now row)
      else db.favorites.get key := by
  simp only [updateState, Table.get_update]
  by_cases same : key = (userId, contentKey)
  · subst same
    simp [present]
  · simp [same]

theorem applyEntity_ok {db next : ServerDb φ} {userId : String} {event : PushEvent}
    {current : Option FavoriteRecord} {now : Int} {entityRevision : Option Nat} {changed : Bool}
    (found : favoriteRecord db userId event.contentKey = .ok current)
    (success : applyEntity db userId event current now = .ok (next, entityRevision, changed)) :
    EntityMove db next userId event entityRevision changed := by
  have record := favoriteRecord_ok found
  have revision : current.map FavoriteRecord.entityRevision =
      (db.favorites.get (userId, event.contentKey)).map FavoriteRow.entityRevision := by
    rcases record with ⟨absent, rfl⟩ | ⟨row, aggregate, stored, -, rfl⟩
    · simp [absent]
    · simp [stored, recordOf]
  unfold applyEntity at success
  dsimp only at success
  split at success
  · rename_i upsert
    split at success
    · cases success
    · rename_i snapshot given
      obtain ⟨nextRevision, succ, rest⟩ := bind_ok_iff.mp success
      have successor := checkedSucc_ok succ
      split at rest
      · rename_i already
        have same := Except.ok.inj rest
        simp only [Prod.mk.injEq] at same
        obtain ⟨rfl, rfl, rfl⟩ := same
        rcases record with ⟨absent, rfl⟩ | ⟨row, aggregate, stored, -, rfl⟩
        · simp at already
        · simp only [Option.any_some, recordOf, decide_eq_true_eq] at already
          refine .same rfl revision (by simp [stored]) ?_
          simp only [Satisfies, upsert]
          exact ⟨row, stored, already.2, by rw [given, already.1]⟩
      · obtain ⟨written, upserted, same⟩ := bind_ok_iff.mp rest
        have same := Except.ok.inj same
        simp only [Prod.mk.injEq] at same
        obtain ⟨rfl, rfl, rfl⟩ := same
        refine .fresh ⟨event.keyVersion, snapshot, none, nextRevision, now⟩ _ (by simp [upsert])
          ?_ rfl (upsertFavorite_ok upserted) (fun key => Table.get_put _ _ _ _) ?_ (Or.inl rfl)
        · rw [successor, revision]
          rfl
        · simp only [Satisfies, upsert]
          exact ⟨_, rfl, rfl, given⟩
  · rename_i delete
    split at success
    · cases success
    · split at success
      · cases success
      · rename_i value
        rcases record with ⟨absent, missing⟩ | ⟨row, aggregate, stored, -, same⟩
        · cases missing
        · obtain rfl := Option.some.inj same
          split at success
          · obtain ⟨succRevision, succ, rest⟩ := bind_ok_iff.mp success
            obtain ⟨nextRevision, fits, written⟩ := bind_ok_iff.mp rest
            have successor := checkedSucc_ok succ
            obtain ⟨rfl, -⟩ := toI64_ok fits
            have same := Except.ok.inj written
            simp only [Prod.mk.injEq] at same
            obtain ⟨rfl, rfl, rfl⟩ := same
            refine .fresh (stateRow (some now) nextRevision now row) _ (by simp [delete]) ?_ rfl
              rfl (updateState_get db userId event.contentKey (some now) nextRevision now stored) ?_
              (Or.inr ⟨row, stored, rfl⟩)
            · simp [stateRow, successor, stored, recordOf]
            · simp only [Satisfies, delete]
              exact ⟨_, rfl, rfl⟩
          · rename_i gone
            have same := Except.ok.inj success
            simp only [Prod.mk.injEq] at same
            obtain ⟨rfl, rfl, rfl⟩ := same
            refine .same rfl revision (by simp [stored]) ?_
            simp only [Satisfies, delete]
            refine ⟨row, stored, ?_⟩
            simpa only [recordOf, Option.isSome_iff_ne_none] using gone
  · rename_i stats
    split at success
    · cases success
    · rename_i allowed
      have same := Except.ok.inj success
      simp only [Prod.mk.injEq] at same
      obtain ⟨rfl, rfl, rfl⟩ := same
      rcases record with ⟨absent, rfl⟩ | ⟨row, aggregate, stored, -, rfl⟩
      · simp at allowed
      · exact .same rfl revision (by simp [stored]) (by simp [Satisfies, stats])

/-- One spec for `apply_event`: the move it makes, and what its answer says. -/
structure Applied (db next : ServerDb φ) (userId : String) (event : PushEvent) (now : Int)
    (outcome : EventOutcome) : Prop where
  move : Move db next userId event.contentKey event.operation now
  processed : next.processedSyncEvents = db.processedSyncEvents
  devices : next.devices = db.devices
  eventId : outcome.ack.eventId = event.eventId
  named : event.operation ≠ .queryStatsUpsert →
    revisionOf (db.favorites.get (userId, event.contentKey)) = event.baseEntityRevision
  satisfied : Satisfies event (next.favorites.get (userId, event.contentKey))
  answered : event.operation ≠ .queryStatsUpsert →
    outcome.ack.entityRevision =
      some (revisionOf (next.favorites.get (userId, event.contentKey)))
  present : (next.favorites.get (userId, event.contentKey)).isSome
  statsOnly : event.operation = .queryStatsUpsert → next.favorites = db.favorites ∧
    outcome.ack.entityRevision = none
  revision : next.users.get userId = some outcome.ack.userRevision
  version : ∀ key row, next.favorites.get key = some row → row.keyVersion = event.keyVersion ∨
    ∃ old, db.favorites.get key = some old ∧ row.keyVersion = old.keyVersion

theorem finishChange_ok {db next : ServerDb φ} {userId : String} {event : PushEvent}
    {entityRevision : Option Nat} {changed : Bool} {now : Int} {revision : Nat}
    (success : finishChange db userId event entityRevision changed now = .ok (next, revision)) :
    (changed = false ∧ next = db ∧ db.users.get userId = some revision) ∨
      (changed = true ∧ ∃ entity previous, entityRevision = some entity ∧
        db.users.get userId = some previous ∧ revision = previous + 1 ∧
        previous + 1 < i64Limit ∧
        next = { db with
          users := db.users.put userId (previous + 1)
          changeLog := db.changeLog.put (userId, previous + 1)
            ⟨event.contentKey, entity, operationName event.operation, now⟩ }) := by
  unfold finishChange at success
  split at success
  · rename_i logged
    split at success
    · cases success
    · rename_i entity
      obtain ⟨previous, stored, advanced, fits, written⟩ := recordChange_ok success
      exact Or.inr ⟨logged, entity, previous, rfl, stored, advanced, fits, written⟩
  · rename_i silent
    obtain ⟨latest, stored, same⟩ := bind_ok_iff.mp success
    have same := Except.ok.inj same
    simp only [Prod.mk.injEq] at same
    obtain ⟨rfl, rfl⟩ := same
    exact Or.inl ⟨by simpa using silent, rfl, userRevision_ok stored⟩

theorem applyEvent_ok {db next : ServerDb φ} {userId deviceId : String} {event : PushEvent}
    {now : Int} {outcome : EventOutcome}
    (success : applyEvent db userId deviceId event now = .ok (next, outcome)) :
    Applied db next userId event now outcome := by
  unfold applyEvent at success
  obtain ⟨current, found, guarded⟩ := bind_ok_iff.mp success
  obtain ⟨⟨⟩, guard, entityStep⟩ := bind_ok_iff.mp guarded
  obtain ⟨⟨entityDb, entityRevision, entityChanged⟩, entityOk, statsStep⟩ :=
    bind_ok_iff.mp entityStep
  obtain ⟨⟨statsDb, statsChanged, aggregate⟩, statsOk, finishStep⟩ := bind_ok_iff.mp statsStep
  obtain ⟨⟨finalDb, revision⟩, finishOk, answer⟩ := bind_ok_iff.mp finishStep
  have answer := Except.ok.inj answer
  simp only [Prod.mk.injEq] at answer
  obtain ⟨rfl, rfl⟩ := answer
  have named : event.operation ≠ .queryStatsUpsert →
      revisionOf (db.favorites.get (userId, event.contentKey)) = event.baseEntityRevision := by
    intro favorite
    rw [← checkBase_ok guard favorite]
    rcases favoriteRecord_ok found with ⟨absent, rfl⟩ | ⟨row, aggregate, stored, -, rfl⟩
    · simp [absent]
    · simp [stored, recordOf]
  have statsFrame : ∃ table, statsDb = { entityDb with deviceQueryStats := table } := by
    rcases applyStats_ok statsOk with ⟨-, rfl⟩ | ⟨-, -, table, rfl⟩
    · exact ⟨_, rfl⟩
    · exact ⟨table, rfl⟩
  obtain ⟨table, rfl⟩ := statsFrame
  cases applyEntity_ok found entityOk with
  | same unchanged entity present satisfied =>
      subst unchanged
      obtain ⟨row, stored⟩ := Option.isSome_iff_exists.mp present
      rw [stored, Option.map_some] at entity
      subst entity
      rcases finishChange_ok finishOk with ⟨-, rfl, latest⟩ |
        ⟨-, entity, previous, logged, latest, rfl, fits, rfl⟩
      · exact {
          move := .quiet rfl rfl rfl
          processed := rfl
          devices := rfl
          eventId := rfl
          named := named
          satisfied := satisfied
          answered := fun favorite => by simp [favorite, stored]
          present := present
          statsOnly := fun stats => ⟨rfl, by simp [stats]⟩
          revision := latest
          version := fun _ old here => Or.inr ⟨old, here, rfl⟩ }
      · obtain rfl := Option.some.inj logged
        exact {
          move := .stats row stored rfl ⟨previous, latest, fits, rfl, rfl⟩
          processed := rfl
          devices := rfl
          eventId := rfl
          named := named
          satisfied := satisfied
          answered := fun favorite => by simp [favorite, stored]
          present := present
          statsOnly := fun stats => ⟨rfl, by simp [stats]⟩
          revision := Table.get_put_self _ _ _
          version := fun _ old here => Or.inr ⟨old, here, rfl⟩ }
  | fresh row favorites favorite advanced entity changed written satisfied version =>
      subst changed entity
      rcases finishChange_ok finishOk with ⟨silent, -⟩ |
        ⟨-, entity, previous, logged, latest, rfl, fits, rfl⟩
      · simp at silent
      · obtain rfl := Option.some.inj logged
        have stored : favorites.get (userId, event.contentKey) = some row := by
          rw [written, if_pos rfl]
        exact {
          move := .entity row advanced written ⟨previous, latest, fits, rfl, rfl⟩
          processed := rfl
          devices := rfl
          eventId := rfl
          named := named
          satisfied := stored ▸ satisfied
          answered := fun _ => by simp [favorite, stored]
          present := by simp [stored]
          statsOnly := fun stats => absurd stats favorite
          revision := Table.get_put_self _ _ _
          version := fun key other here => by
            replace here : favorites.get key = some other := here
            rw [written] at here
            split at here
            · rename_i same
              subst same
              cases here
              exact version
            · exact Or.inr ⟨other, here, rfl⟩ }

theorem storeAck_ok {db next : ServerDb φ} {userId : String} {event : PushEvent}
    {fingerprint : φ} {ack : PushAck} {now : Int}
    (success : storeAck db userId event fingerprint ack now = .ok next) :
    next = { db with
      processedSyncEvents := db.processedSyncEvents.put (userId, event.eventId)
        (ackRow event fingerprint ack now) } := by
  unfold storeAck at success
  obtain ⟨entity, -, first⟩ := bind_ok_iff.mp success
  obtain ⟨user, -, second⟩ := bind_ok_iff.mp first
  obtain ⟨count, -, third⟩ := bind_ok_iff.mp second
  split at third
  · cases third
  · exact (Except.ok.inj third).symm

section Push

variable [DecidableEq φ]

theorem processedAck_none {db : ServerDb φ} {userId : String} {event : PushEvent}
    {fingerprint : φ} (success : processedAck db userId event fingerprint = .ok none) :
    db.processedSyncEvents.get (userId, event.eventId) = none := by
  unfold processedAck at success
  split at success
  · assumption
  · split at success
    · cases success
    · obtain ⟨aggregate, -, impossible⟩ := bind_ok_iff.mp success
      cases impossible

theorem processedAck_some {db : ServerDb φ} {userId : String} {event : PushEvent}
    {fingerprint : φ} {ack : PushAck}
    (success : processedAck db userId event fingerprint = .ok (some ack)) :
    ∃ row, db.processedSyncEvents.get (userId, event.eventId) = some row ∧
      row.eventFingerprint = fingerprint ∧ ack.entityRevision = row.entityRevision := by
  unfold processedAck at success
  split at success
  · cases success
  · rename_i row stored
    split at success
    · cases success
    · rename_i same
      obtain ⟨aggregate, -, decoded⟩ := bind_ok_iff.mp success
      obtain rfl := Option.some.inj (Except.ok.inj decoded)
      exact ⟨row, stored, by simpa using same, rfl⟩

/-- The round trip of an acknowledgement through `processed_sync_events`. -/
theorem processedAck_ackRow {db : ServerDb φ} {userId : String} {event : PushEvent}
    {fingerprint : φ} {ack : PushAck} {now : Int}
    (stored : db.processedSyncEvents.get (userId, event.eventId) =
      some (ackRow event fingerprint ack now))
    (named : ack.eventId = event.eventId) :
    processedAck db userId event fingerprint = .ok (some ack) := by
  obtain ⟨eventId, status, entityRevision, userRevision, aggregate⟩ := ack
  obtain rfl : eventId = event.eventId := named
  unfold processedAck
  rw [stored]
  cases aggregate <;> cases status <;> simp [ackRow, ackAggregate, bind, Except.bind]

variable [EventFingerprint φ]

/-- One turn of the push loop: a recognised duplicate, or an application whose
answer is stored. -/
inductive Pushed (db next : ServerDb φ) (userId : String) (event : PushEvent) (now : Int)
    (outcome : EventOutcome) : Prop
  | duplicate (row : ProcessedRow φ) (unchanged : next = db)
      (stored : db.processedSyncEvents.get (userId, event.eventId) = some row)
      (fingerprint : row.eventFingerprint = eventFingerprint event)
      (answer : processedAck db userId event (eventFingerprint event) = .ok (some outcome.ack))
      (silent : outcome.changedRevision = none)
  | applied (middle : ServerDb φ)
      (unseen : db.processedSyncEvents.get (userId, event.eventId) = none)
      (spec : Applied db middle userId event now outcome)
      (stored : next = { middle with
        processedSyncEvents := db.processedSyncEvents.put (userId, event.eventId)
          (ackRow event (eventFingerprint event) outcome.ack now) })

theorem pushEvent_ok {db next : ServerDb φ} {userId deviceId : String} {event : PushEvent}
    {now : Int} {outcome : EventOutcome}
    (success : pushEvent db userId deviceId event now = .ok (next, outcome)) :
    Pushed db next userId event now outcome := by
  unfold pushEvent at success
  dsimp only at success
  obtain ⟨found, looked, rest⟩ := bind_ok_iff.mp success
  cases found with
  | some ack =>
      have same := Except.ok.inj rest
      simp only [Prod.mk.injEq] at same
      obtain ⟨rfl, rfl⟩ := same
      obtain ⟨row, stored, fingerprint, -⟩ := processedAck_some looked
      exact .duplicate row rfl stored fingerprint looked rfl
  | none =>
      obtain ⟨⟨middle, result⟩, applied, storing⟩ := bind_ok_iff.mp rest
      obtain ⟨final, stored, same⟩ := bind_ok_iff.mp storing
      have same := Except.ok.inj same
      simp only [Prod.mk.injEq] at same
      obtain ⟨rfl, rfl⟩ := same
      have spec := applyEvent_ok applied
      have written := storeAck_ok stored
      rw [spec.processed] at written
      exact .applied middle (processedAck_none looked) spec written

theorem Pushed.move {db next : ServerDb φ} {userId : String} {event : PushEvent} {now : Int}
    {outcome : EventOutcome} (pushed : Pushed db next userId event now outcome) :
    Move db next userId event.contentKey event.operation now := by
  cases pushed with
  | duplicate row unchanged stored fingerprint answer silent =>
      subst unchanged
      exact .quiet rfl rfl rfl
  | applied middle unseen spec stored =>
      subst stored
      cases spec.move with
      | quiet favorites users changeLog => exact .quiet favorites users changeLog
      | stats row present favorites log => exact .stats row present favorites log
      | entity fresh advanced favorites log => exact .entity fresh advanced favorites log

/-- A batch that commits is its first turn and the rest. -/
theorem pushLoop_cons {userId deviceId : String} {now : Int} {event : PushEvent}
    {rest : List PushEvent} {db next : ServerDb φ} {acks : List PushAck} {changed : Option Nat}
    (success : pushLoop userId deviceId now (event :: rest) db = .ok (next, acks, changed)) :
    ∃ middle outcome later tailChanged, Pushed db middle userId event now outcome ∧
      pushLoop userId deviceId now rest middle = .ok (next, later, tailChanged) ∧
      acks = outcome.ack :: later := by
  unfold pushLoop at success
  obtain ⟨⟨middle, outcome⟩, head, tailStep⟩ := bind_ok_iff.mp success
  obtain ⟨⟨last, later, tailChanged⟩, tail, same⟩ := bind_ok_iff.mp tailStep
  have same := Except.ok.inj same
  simp only [Prod.mk.injEq] at same
  obtain ⟨rfl, rfl, -⟩ := same
  exact ⟨middle, outcome, later, tailChanged, pushEvent_ok head, tail, rfl⟩

theorem pushLoop_nil {userId deviceId : String} {now : Int} {db next : ServerDb φ}
    {acks : List PushAck} {changed : Option Nat}
    (success : pushLoop userId deviceId now [] db = .ok (next, acks, changed)) :
    next = db ∧ acks = [] := by
  have same := Except.ok.inj success
  simp only [Prod.mk.injEq] at same
  exact ⟨same.1.symm, same.2.1.symm⟩

/-- Induction over the push loop: what every turn keeps, a batch keeps. -/
theorem pushLoop_induct {userId deviceId : String} {now : Int}
    (keep : ServerDb φ → ServerDb φ → Prop) (refl : ∀ db, keep db db)
    (turn : ∀ db next last event outcome, Pushed db next userId event now outcome →
      keep next last → keep db last) :
    ∀ (events : List PushEvent) (db next : ServerDb φ) (acks : List PushAck)
      (changed : Option Nat),
      pushLoop userId deviceId now events db = .ok (next, acks, changed) → keep db next := by
  intro events
  induction events with
  | nil =>
      intro db next acks changed success
      rw [(pushLoop_nil success).1]
      exact refl db
  | cons event rest ih =>
      intro db next acks changed success
      obtain ⟨middle, outcome, later, tailChanged, head, tail, -⟩ := pushLoop_cons success
      exact turn db middle next event outcome head (ih middle next later tailChanged tail)

theorem pushBody_ok {db next : ServerDb φ} {userId deviceId : String} {events : List PushEvent}
    {now : Int} {result : MutationResult PushResponse}
    (success : pushBody userId deviceId events now db = .ok (next, result)) :
    pushLoop userId deviceId now events db =
      .ok (next, result.value.acknowledgements, result.changedRevision) := by
  unfold pushBody at success
  obtain ⟨⟨last, acks, changed⟩, looped, rest⟩ := bind_ok_iff.mp success
  obtain ⟨latest, -, same⟩ := bind_ok_iff.mp rest
  have same := Except.ok.inj same
  simp only [Prod.mk.injEq] at same
  obtain ⟨rfl, rfl⟩ := same
  exact looped

end Push

/-- One spec for `set_favorite_state` when it commits. -/
structure Patched (db next : ServerDb φ) (userId contentKey : String) (active : Bool)
    (baseEntityRevision : Nat) (now : Int) : Prop where
  move : Move db next userId contentKey
    (if active then .favoriteUpsert else .favoriteDelete) now
  processed : next.processedSyncEvents = db.processedSyncEvents
  devices : next.devices = db.devices
  named : revisionOf (db.favorites.get (userId, contentKey)) = baseEntityRevision
  version : ∀ key row, next.favorites.get key = some row →
    ∃ old, db.favorites.get key = some old ∧ row.keyVersion = old.keyVersion

theorem setStateBody_ok {db next : ServerDb φ} {userId contentKey : String} {active : Bool}
    {baseEntityRevision : Nat} {now : Int} {result : MutationResult FavoriteRecord}
    (success : setStateBody userId contentKey active baseEntityRevision now db =
      .ok (next, result)) :
    Patched db next userId contentKey active baseEntityRevision now := by
  unfold setStateBody at success
  obtain ⟨found, looked, rest⟩ := bind_ok_iff.mp success
  rcases favoriteRecord_ok looked with ⟨absent, rfl⟩ | ⟨row, aggregate, stored, -, rfl⟩
  · cases rest
  · dsimp only at rest
    split at rest
    · unfold conflictWith at rest
      obtain ⟨latest, -, impossible⟩ := bind_ok_iff.mp rest
      cases impossible
    · rename_i named
      have named : row.entityRevision = baseEntityRevision := by simpa [recordOf] using named
      obtain ⟨⟨patched, changed⟩, patch, reread⟩ := bind_ok_iff.mp rest
      obtain ⟨again, -, final⟩ := bind_ok_iff.mp reread
      have last : next = patched := by
        cases again with
        | none => cases final
        | some value => exact (Prod.mk.inj (Except.ok.inj final)).1.symm
      subst last
      unfold patchState at patch
      split at patch
      · obtain rfl := (Prod.mk.inj (Except.ok.inj patch)).1
        exact ⟨.quiet rfl rfl rfl, rfl, rfl, by rw [stored]; exact named,
          fun _ other here => ⟨other, here, rfl⟩⟩
      · obtain ⟨successor, succ, narrow⟩ := bind_ok_iff.mp patch
        obtain ⟨entity, fits, logStep⟩ := bind_ok_iff.mp narrow
        obtain ⟨⟨logged, revision⟩, log, same⟩ := bind_ok_iff.mp logStep
        obtain rfl := (Prod.mk.inj (Except.ok.inj same)).1
        obtain ⟨rfl, -⟩ := toI64_ok fits
        obtain ⟨previous, latest, -, inside, rfl⟩ := recordChange_ok log
        have advanced := checkedSucc_ok succ
        have written := updateState_get db userId contentKey (if active then none else some now)
          entity now stored
        refine ⟨.entity (stateRow (if active then none else some now) entity now row) ?_ written
          ⟨previous, latest, inside, rfl, rfl⟩, rfl, rfl, by rw [stored]; exact named, ?_⟩
        · rw [stored, revisionOf_some]
          exact advanced
        · intro key other here
          rw [show (_ : ServerDb φ).favorites.get key = _ from written key] at here
          split at here
          · rename_i same
            subst same
            cases here
            exact ⟨row, stored, rfl⟩
          · exact ⟨other, here, rfl⟩

end Lvos.Server
