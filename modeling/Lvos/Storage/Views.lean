import Lvos.Storage.SyncMoves

set_option autoImplicit false

namespace Lvos.Storage

open Lvos.Core Lvos.Sync
open Relational (Table)

/-- `UPDATE favorites SET entity_revision` on one row. -/
def revised (revision : Nat) (row : FavoriteRow) : FavoriteRow :=
  { row with entityRevision := revision }

/-- The row after an update of its retry columns only. -/
structure OutboxRow.Like (row other : OutboxRow) : Prop where
  eventId : other.eventId = row.eventId
  contentKey : other.contentKey = row.contentKey
  operation : other.operation = row.operation
  base : other.baseEntityRevision = row.baseEntityRevision
  createdAt : other.createdAt = row.createdAt
  replays : other.conflictReplayCount = row.conflictReplayCount

theorem OutboxRow.Like.refl (row : OutboxRow) : row.Like row := ⟨rfl, rfl, rfl, rfl, rfl, rfl⟩

theorem OutboxRow.Like.trans {first second third : OutboxRow} (left : first.Like second)
    (right : second.Like third) : first.Like third :=
  ⟨right.eventId.trans left.eventId, right.contentKey.trans left.contentKey,
    right.operation.trans left.operation, right.base.trans left.base,
    right.createdAt.trans left.createdAt, right.replays.trans left.replays⟩

theorem setEntityRevision_get (db : ProfileDb) (target key : ContentKey) (revision : Nat) :
    (setEntityRevision db target revision).favorites.get key =
      if key = target then (db.favorites.get key).map (revised revision)
      else db.favorites.get key :=
  Table.get_update_key db.favorites target key _

/-- The Outbox update of an acknowledged revision, on one row. -/
def acknowledgedRow (event : OutboxEvent) (revision : Nat) (row : OutboxRow) : OutboxRow :=
  if row.contentKey = event.contentKey && row.eventId ≠ event.eventId &&
      isFavoriteOperation row.operation then
    { row with baseEntityRevision := some revision }
  else row

theorem acknowledgeRevision_get (db : ProfileDb) (event : OutboxEvent) (revision : Nat)
    (coalesceKey : CoalesceKey) :
    (acknowledgeRevision db event revision).syncOutbox.get coalesceKey =
      (db.syncOutbox.get coalesceKey).map (acknowledgedRow event revision) := by
  show (db.syncOutbox.update _ _).get coalesceKey = _
  rw [Table.get_update]
  rfl

theorem deleteEvent_get (db : ProfileDb) (eventId : Uuid) (coalesceKey : CoalesceKey) :
    (deleteEvent db eventId).syncOutbox.get coalesceKey =
      (db.syncOutbox.get coalesceKey).filter (fun row => decide (row.eventId ≠ eventId)) := by
  show (db.syncOutbox.delete _).get coalesceKey = _
  rw [Table.get_delete]
  congr 1
  funext row
  simp

/-- One content under one acknowledged event. -/
inductive KeyAcknowledged (event : OutboxEvent) (answered : Option Nat) (key : ContentKey)
    (favorite next : Option FavoriteRow) (pending after : Option OutboxRow) : Prop
  | apart (favorites : next = favorite) (outbox : after = pending)
  | settled (revision : Nat) (row : OutboxRow) (keyed : key = event.contentKey)
      (answer : answered = some revision)
      (favorites : next = favorite.map (revised revision)) (queued : pending = some row)
      (same : row.eventId = event.eventId) (outbox : after = none)
  | newer (revision : Nat) (keyed : key = event.contentKey) (answer : answered = some revision)
      (favorites : next = favorite.map (revised revision))
      (apart : ∀ row, pending = some row → row.eventId ≠ event.eventId)
      (outbox : after = pending.map
        (fun row => { row with baseEntityRevision := some revision }))

/-- The tables one acknowledged event leaves, with the aggregate it brought. -/
def acknowledged (db : ProfileDb) (event : OutboxEvent) (answered : Option Nat)
    (table : Table ContentKey QueryStats) : ProfileDb :=
  deleteEvent { (match answered with
    | none => db
    | some revision => acknowledgeRevision db event revision) with queryStats := table }
      event.eventId

theorem acknowledged_favorites (db : ProfileDb) (event : OutboxEvent) (answered : Option Nat)
    (table : Table ContentKey QueryStats) (key : ContentKey) :
    (acknowledged db event answered table).favorites.get key =
      match answered with
      | none => db.favorites.get key
      | some revision =>
          if key = event.contentKey then (db.favorites.get key).map (revised revision)
          else db.favorites.get key := by
  cases answered with
  | none => rfl
  | some revision => exact setEntityRevision_get db event.contentKey key revision

theorem acknowledged_outbox (db : ProfileDb) (event : OutboxEvent) (answered : Option Nat)
    (table : Table ContentKey QueryStats) (coalesceKey : CoalesceKey) :
    (acknowledged db event answered table).syncOutbox.get coalesceKey =
      match answered with
      | none => (db.syncOutbox.get coalesceKey).filter
          (fun row => decide (row.eventId ≠ event.eventId))
      | some revision => ((db.syncOutbox.get coalesceKey).map
          (acknowledgedRow event revision)).filter
            (fun row => decide (row.eventId ≠ event.eventId)) := by
  unfold acknowledged
  rw [deleteEvent_get]
  cases answered with
  | none => rfl
  | some revision =>
      dsimp only
      rw [acknowledgeRevision_get]

theorem acknowledged_profileMeta (db : ProfileDb) (event : OutboxEvent) (answered : Option Nat)
    (table : Table ContentKey QueryStats) :
    (acknowledged db event answered table).profileMeta = db.profileMeta := by
  cases answered <;> rfl

theorem acknowledgedRow_eventId (event : OutboxEvent) (revision : Nat) (row : OutboxRow) :
    (acknowledgedRow event revision row).eventId = row.eventId := by
  unfold acknowledgedRow
  split <;> rfl

/-- What an acknowledgement leaves of the Outbox: rows that were there, with at
most another base, and none with the id of the event. -/
theorem acknowledged_carried (db : ProfileDb) (event : OutboxEvent) (answered : Option Nat)
    (table : Table ContentKey QueryStats) {coalesceKey : CoalesceKey} {row : OutboxRow}
    (stored : (acknowledged db event answered table).syncOutbox.get coalesceKey = some row) :
    ∃ old, db.syncOutbox.get coalesceKey = some old ∧ old.eventId ≠ event.eventId ∧
      (row = old ∨ ∃ revision, answered = some revision ∧ old.contentKey = event.contentKey ∧
        isFavoriteOperation old.operation = true ∧
        row = { old with baseEntityRevision := some revision }) := by
  rw [acknowledged_outbox] at stored
  cases answered with
  | none =>
      obtain ⟨here, differs⟩ := Option.filter_eq_some_iff.mp stored
      exact ⟨row, here, by simpa using differs, Or.inl rfl⟩
  | some revision =>
      obtain ⟨mapped, differs⟩ := Option.filter_eq_some_iff.mp stored
      obtain ⟨old, here, rfl⟩ := Option.map_eq_some_iff.mp mapped
      rw [acknowledgedRow_eventId] at differs
      refine ⟨old, here, by simpa using differs, ?_⟩
      unfold acknowledgedRow
      split
      · rename_i chosen
        simp only [ne_eq, Bool.and_eq_true, decide_eq_true_eq] at chosen
        exact Or.inr ⟨revision, rfl, chosen.1.1, chosen.2, rfl⟩
      · exact Or.inl rfl

/-- The view of one content. A row with the event's id may only stand where the
event was read, and the pending intent of a content is a Favorite operation. -/
theorem acknowledged_key (db : ProfileDb) (event : OutboxEvent) (answered : Option Nat)
    (table : Table ContentKey QueryStats) (key : ContentKey)
    (owner : ∀ row, db.syncOutbox.get (.favorite key) = some row →
      row.eventId = event.eventId → answered.isSome ∧ event.contentKey = key)
    (keyed : ∀ row, db.syncOutbox.get (.favorite key) = some row →
      row.contentKey = key ∧ isFavoriteOperation row.operation = true) :
    KeyAcknowledged event answered key (db.favorites.get key)
      ((acknowledged db event answered table).favorites.get key)
      (db.syncOutbox.get (.favorite key))
      ((acknowledged db event answered table).syncOutbox.get (.favorite key)) := by
  rw [acknowledged_favorites, acknowledged_outbox]
  cases pending : db.syncOutbox.get (.favorite key) with
  | none =>
      cases answered with
      | none => exact .apart rfl rfl
      | some revision =>
          by_cases same : key = event.contentKey
          · simp only [same, ↓reduceIte]
            exact .newer revision rfl rfl rfl (by simp) rfl
          · simp only [same, ↓reduceIte]
            exact .apart rfl rfl
  | some row =>
      have keyedRow := keyed row pending
      by_cases named : row.eventId = event.eventId
      · obtain ⟨present, sameKey⟩ := owner row pending named
        obtain ⟨revision, rfl⟩ := Option.isSome_iff_exists.mp present
        simp only [sameKey, ↓reduceIte]
        refine .settled revision row sameKey.symm rfl rfl rfl named ?_
        simp [Option.filter, acknowledgedRow_eventId, named]
      · cases answered with
        | none => exact .apart rfl (by simp [Option.filter, named])
        | some revision =>
            by_cases same : key = event.contentKey
            · simp only [same, ↓reduceIte]
              refine .newer revision rfl rfl rfl (by rintro other ⟨⟩; exact named) ?_
              have chosen : acknowledgedRow event revision row =
                  { row with baseEntityRevision := some revision } := by
                unfold acknowledgedRow
                rw [if_pos]
                simp [keyedRow.1, keyedRow.2, same, named]
              simp [Option.filter, chosen, named]
            · simp only [same, ↓reduceIte]
              refine .apart rfl ?_
              have skipped : acknowledgedRow event revision row = row := by
                unfold acknowledgedRow
                rw [if_neg]
                simp [keyedRow.1, same]
              simp [Option.filter, skipped, named]

theorem rebase_get (db : ProfileDb) (target : ContentKey) (revision : Nat) (now : Int)
    (coalesceKey : CoalesceKey) :
    (rebase db target revision now).syncOutbox.get coalesceKey =
      if coalesceKey = .favorite target then
        (db.syncOutbox.get coalesceKey).map (fun row =>
          { row with baseEntityRevision := some revision, updatedAt := now })
      else db.syncOutbox.get coalesceKey :=
  Table.get_update_key db.syncOutbox _ coalesceKey _

theorem prepareReplay_get (db : ProfileDb) (target : ContentKey) (revision : Nat) (now : Int)
    (coalesceKey : CoalesceKey) :
    (prepareReplay db target revision now).syncOutbox.get coalesceKey =
      if coalesceKey = .favorite target then
        (db.syncOutbox.get coalesceKey).map (fun row =>
          { row with
            baseEntityRevision := some revision
            conflictReplayCount := 1
            attemptCount := 0
            nextRetryAt := none
            lastError := none
            updatedAt := now })
      else db.syncOutbox.get coalesceKey :=
  Table.get_update_key db.syncOutbox _ coalesceKey _

theorem markManualConflict_get (db : ProfileDb) (target : ContentKey) (now : Int)
    (coalesceKey : CoalesceKey) :
    (markManualConflict db target now).syncOutbox.get coalesceKey =
      if coalesceKey = .favorite target then
        (db.syncOutbox.get coalesceKey).map (fun row =>
          { row with
            lastError := some conflictError
            nextRetryAt := none
            updatedAt := now })
      else db.syncOutbox.get coalesceKey :=
  Table.get_update_key db.syncOutbox _ coalesceKey _

/-- One content under one remote change, or under the answer to a conflict of it. -/
inductive KeyReceived (record : FavoriteRecord) (favorite next : Option FavoriteRow)
    (pending after : Option OutboxRow) : Prop
  | written (favorites : next = some (remoteRow record)) (outbox : after = none)
  | adopted (row other : OutboxRow) (queued : pending = some row) (outbox : after = some other)
      (favorites : next = favorite.map (revised record.entityRevision))
      (eventId : other.eventId = row.eventId) (contentKey : other.contentKey = row.contentKey)
      (operation : other.operation = row.operation) (createdAt : other.createdAt = row.createdAt)
      (base : other.baseEntityRevision = some record.entityRevision)

theorem Pulled.key {db next : ProfileDb} {record : FavoriteRecord} {key : ContentKey} {now : Int}
    (pulled : Pulled db next record key now) :
    KeyReceived record (db.favorites.get key) (next.favorites.get key)
      (db.syncOutbox.get (.favorite key)) (next.syncOutbox.get (.favorite key)) := by
  cases pulled with
  | written table idle kept changed =>
      subst changed
      exact .written (Table.get_put_self _ _ _) idle
  | converged table row localValue pending found reached kept changed =>
      subst changed
      refine .written (Table.get_put_self _ _ _) ?_
      show (db.syncOutbox.delete _).get _ = none
      rw [Table.get_delete_key, if_pos rfl]
  | rebased table row localValue pending found apart kept changed =>
      subst changed
      refine .adopted row
        { row with baseEntityRevision := some record.entityRevision, updatedAt := now }
        pending ?_ ?_ rfl rfl rfl rfl rfl
      · show (rebase _ _ _ _).syncOutbox.get _ = _
        rw [rebase_get, if_pos rfl]
        show (db.syncOutbox.get (.favorite key)).map _ = _
        rw [pending]
        rfl
      · exact (setEntityRevision_get db key key record.entityRevision).trans (if_pos rfl)

theorem Pulled.favorites_apart {db next : ProfileDb} {record : FavoriteRecord}
    {target key : ContentKey} {now : Int} (pulled : Pulled db next record target now)
    (apart : key ≠ target) : next.favorites.get key = db.favorites.get key := by
  cases pulled with
  | written table idle kept changed =>
      subst changed
      exact Table.get_put_of_ne _ _ apart
  | converged table row localValue pending found reached kept changed =>
      subst changed
      exact Table.get_put_of_ne _ _ apart
  | rebased table row localValue pending found differs kept changed =>
      subst changed
      exact (setEntityRevision_get db target key record.entityRevision).trans (if_neg apart)

theorem Pulled.outbox_apart {db next : ProfileDb} {record : FavoriteRecord}
    {target : ContentKey} {now : Int} (pulled : Pulled db next record target now)
    {coalesceKey : CoalesceKey} (apart : coalesceKey ≠ .favorite target) :
    next.syncOutbox.get coalesceKey = db.syncOutbox.get coalesceKey := by
  cases pulled with
  | written table idle kept changed =>
      subst changed
      rfl
  | converged table row localValue pending found reached kept changed =>
      subst changed
      show (db.syncOutbox.delete _).get _ = _
      rw [Table.get_delete_key, if_neg apart]
  | rebased table row localValue pending found differs kept changed =>
      subst changed
      show (rebase _ _ _ _).syncOutbox.get _ = _
      rw [rebase_get, if_neg apart]
      rfl

theorem Pulled.profileMeta {db next : ProfileDb} {record : FavoriteRecord}
    {target : ContentKey} {now : Int} (pulled : Pulled db next record target now) :
    next.profileMeta = db.profileMeta := by
  cases pulled with
  | written table idle kept changed => subst changed; rfl
  | converged table row localValue pending found reached kept changed => subst changed; rfl
  | rebased table row localValue pending found differs kept changed => subst changed; rfl

section Resolve

variable {db next : ProfileDb} {event : OutboxEvent} {current : Option FavoriteRecord} {now : Int}
  {resolution : ConflictResolution}

/-- The content of the conflict: the record was taken over, or its revision was,
or only the row's retry columns moved. -/
theorem Resolved.key (resolved : Resolved db next event current now resolution)
    (keyed : ∀ record, current = some record → record.contentKey = event.contentKey.toHex) :
    (∃ record, current = some record ∧ KeyReceived record (db.favorites.get event.contentKey)
        (next.favorites.get event.contentKey) (db.syncOutbox.get (.favorite event.contentKey))
        (next.syncOutbox.get (.favorite event.contentKey))) ∨
      (next.favorites.get event.contentKey = db.favorites.get event.contentKey ∧
        next.syncOutbox.get (.favorite event.contentKey) =
          (db.syncOutbox.get (.favorite event.contentKey)).map (fun row => { row with
            lastError := some conflictError
            nextRetryAt := none
            updatedAt := now })) := by
  cases resolved with
  | converged record key localValue table answer recordKey found reached kept changed =>
      subst changed
      obtain rfl : key = event.contentKey :=
        ContentKey.toHex_injective (recordKey.symm.trans (keyed record answer))
      refine Or.inl ⟨record, answer, .written (Table.get_put_self _ _ _) ?_⟩
      show (db.syncOutbox.delete _).get _ = none
      rw [Table.get_delete_key, if_pos rfl]
  | replayed record row table answer pending first kept changed =>
      subst changed
      refine Or.inl ⟨record, answer, .adopted row { row with
        baseEntityRevision := some record.entityRevision
        conflictReplayCount := 1
        attemptCount := 0
        nextRetryAt := none
        lastError := none
        updatedAt := now } pending ?_ ?_ rfl rfl rfl rfl rfl⟩
      · show (prepareReplay _ _ _ _).syncOutbox.get _ = _
        rw [prepareReplay_get, if_pos rfl]
        show (db.syncOutbox.get _).map _ = _
        rw [pending]
        rfl
      · exact (setEntityRevision_get db _ _ record.entityRevision).trans (if_pos rfl)
  | manual table kept changed =>
      subst changed
      refine Or.inr ⟨rfl, ?_⟩
      show (markManualConflict _ _ _).syncOutbox.get _ = _
      rw [markManualConflict_get, if_pos rfl]

theorem Resolved.favorites_apart (resolved : Resolved db next event current now resolution)
    (keyed : ∀ record, current = some record → record.contentKey = event.contentKey.toHex)
    {key : ContentKey} (apart : key ≠ event.contentKey) :
    next.favorites.get key = db.favorites.get key := by
  cases resolved with
  | converged record other localValue table answer recordKey found reached kept changed =>
      subst changed
      obtain rfl : other = event.contentKey :=
        ContentKey.toHex_injective (recordKey.symm.trans (keyed record answer))
      exact Table.get_put_of_ne _ _ apart
  | replayed record row table answer pending first kept changed =>
      subst changed
      exact (setEntityRevision_get db _ key record.entityRevision).trans (if_neg apart)
  | manual table kept changed =>
      subst changed
      rfl

theorem Resolved.outbox_apart (resolved : Resolved db next event current now resolution)
    {coalesceKey : CoalesceKey} (apart : coalesceKey ≠ .favorite event.contentKey) :
    next.syncOutbox.get coalesceKey = db.syncOutbox.get coalesceKey := by
  cases resolved with
  | converged record other localValue table answer recordKey found reached kept changed =>
      subst changed
      show (db.syncOutbox.delete _).get _ = _
      rw [Table.get_delete_key, if_neg apart]
  | replayed record row table answer pending first kept changed =>
      subst changed
      show (prepareReplay _ _ _ _).syncOutbox.get _ = _
      rw [prepareReplay_get, if_neg apart]
      rfl
  | manual table kept changed =>
      subst changed
      show (markManualConflict _ _ _).syncOutbox.get _ = _
      rw [markManualConflict_get, if_neg apart]

theorem Resolved.cursor (resolved : Resolved db next event current now resolution) :
    next.profileMeta.lastServerRevision = db.profileMeta.lastServerRevision ∧
      next.profileMeta.deviceId = db.profileMeta.deviceId := by
  cases resolved with
  | converged record other localValue table answer recordKey found reached kept changed =>
      subst changed; exact ⟨rfl, rfl⟩
  | replayed record row table answer pending first kept changed =>
      subst changed; exact ⟨rfl, rfl⟩
  | manual table kept changed => subst changed; exact ⟨rfl, rfl⟩

end Resolve

/-- The retry columns `mark_retry` writes. -/
def retried (nextRetryAt : Int) (error : String) (now : Int) (row : OutboxRow) : OutboxRow :=
  { row with
    attemptCount := row.attemptCount + 1
    nextRetryAt := some nextRetryAt
    lastError := some (boundedError error)
    updatedAt := now }

theorem markRetry_favorites (db : ProfileDb) (events : List OutboxEvent) (nextRetryAt : Int)
    (error : String) (now : Int) :
    (markRetry db events nextRetryAt error now).favorites = db.favorites ∧
      (markRetry db events nextRetryAt error now).queryStats = db.queryStats ∧
      (markRetry db events nextRetryAt error now).historyEntries = db.historyEntries ∧
      (markRetry db events nextRetryAt error now).profileMeta.lastServerRevision =
        db.profileMeta.lastServerRevision ∧
      (markRetry db events nextRetryAt error now).profileMeta.deviceId =
        db.profileMeta.deviceId := by
  unfold markRetry setSyncError
  dsimp only
  induction events generalizing db with
  | nil => exact ⟨rfl, rfl, rfl, rfl, rfl⟩
  | cons event rest ih => exact ih _

/-- Rows of the batch get the retry columns (more than once if listed more than
once), every other row stays. -/
theorem markRetry_get (db : ProfileDb) (events : List OutboxEvent) (nextRetryAt : Int)
    (error : String) (now : Int) (coalesceKey : CoalesceKey) :
    (db.syncOutbox.get coalesceKey = none ∧
        (markRetry db events nextRetryAt error now).syncOutbox.get coalesceKey = none) ∨
      ∃ row other, db.syncOutbox.get coalesceKey = some row ∧
        (markRetry db events nextRetryAt error now).syncOutbox.get coalesceKey = some other ∧
        row.Like other ∧
        ((other = row ∧ ∀ event ∈ events, event.eventId ≠ row.eventId) ∨
          (other.nextRetryAt = some nextRetryAt ∧ other.lastError = some (boundedError error) ∧
            ∃ event ∈ events, event.eventId = row.eventId)) := by
  unfold markRetry
  show (_ ∧ (List.foldl _ db events).syncOutbox.get coalesceKey = none) ∨
    ∃ row other, _ ∧ (List.foldl _ db events).syncOutbox.get coalesceKey = some other ∧ _
  induction events generalizing db with
  | nil =>
      cases stored : db.syncOutbox.get coalesceKey with
      | none => exact Or.inl ⟨rfl, stored⟩
      | some row => exact Or.inr ⟨row, row, rfl, stored, .refl row, Or.inl ⟨rfl, by simp⟩⟩
  | cons event rest ih =>
      have head : (updateOutbox db (fun _ row => row.eventId = event.eventId)
          (retried nextRetryAt error now)).syncOutbox.get coalesceKey =
          (db.syncOutbox.get coalesceKey).map (fun row =>
            if row.eventId = event.eventId then retried nextRetryAt error now row else row) := by
        show (db.syncOutbox.update _ _).get coalesceKey = _
        rw [Table.get_update]
        simp
      rcases ih (updateOutbox db (fun _ row => row.eventId = event.eventId)
          (retried nextRetryAt error now)) with ⟨absent, gone⟩ | ⟨row, other, stored, reached,
            like, outcome⟩
      · rw [head, Option.map_eq_none_iff] at absent
        exact Or.inl ⟨absent, gone⟩
      · rw [head] at stored
        obtain ⟨old, here, rfl⟩ := Option.map_eq_some_iff.mp stored
        refine Or.inr ⟨old, other, here, reached, ?_⟩
        by_cases chosen : old.eventId = event.eventId
        · simp only [chosen, ↓reduceIte] at like outcome
          have first : old.Like (retried nextRetryAt error now old) :=
            ⟨rfl, rfl, rfl, rfl, rfl, rfl⟩
          refine ⟨first.trans like, Or.inr ?_⟩
          rcases outcome with ⟨rfl, -⟩ | ⟨retry, failed, -⟩
          · exact ⟨rfl, rfl, event, List.mem_cons_self, chosen.symm⟩
          · exact ⟨retry, failed, event, List.mem_cons_self, chosen.symm⟩
        · simp only [chosen, ↓reduceIte] at like outcome
          refine ⟨like, ?_⟩
          rcases outcome with ⟨rfl, others⟩ | ⟨retry, failed, named, member, same⟩
          · refine Or.inl ⟨rfl, ?_⟩
            intro listed member
            rcases List.mem_cons.mp member with rfl | later
            · exact fun same => chosen same.symm
            · exact others listed later
          · exact Or.inr ⟨retry, failed, named, List.mem_cons_of_mem event member, same⟩

theorem markRetry_like (db : ProfileDb) (events : List OutboxEvent) (nextRetryAt : Int)
    (error : String) (now : Int) {coalesceKey : CoalesceKey} {row : OutboxRow}
    (stored : (markRetry db events nextRetryAt error now).syncOutbox.get coalesceKey = some row) :
    ∃ old, db.syncOutbox.get coalesceKey = some old ∧ old.Like row := by
  rcases markRetry_get db events nextRetryAt error now coalesceKey with
    ⟨-, gone⟩ | ⟨old, other, here, reached, like, -⟩
  · rw [gone] at stored
    cases stored
  · rw [reached] at stored
    cases stored
    exact ⟨old, here, like⟩

end Lvos.Storage
