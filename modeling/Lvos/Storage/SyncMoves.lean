import Lvos.Storage.Moves

set_option autoImplicit false

namespace Lvos.Storage

open Lvos.Core Lvos.Sync
open Relational (Table)
open Transaction (bind_ok_iff)

theorem updateAggregate_ok {db next : ProfileDb} {key : ContentKey}
    {aggregate : AggregateQueryStats} {sentQueryCount : Option Nat} {now : Int}
    (success : updateAggregate db key aggregate sentQueryCount now = .ok next) :
    next = { db with
      queryStats := db.queryStats.put key
        (aggregated ((db.queryStats.get key).getD
          ⟨0, aggregate.firstQueriedAt, aggregate.lastQueriedAt, 0, 0, none, none, none⟩)
          aggregate (sentQueryCount.getD 0) now) } := by
  unfold updateAggregate at success
  obtain ⟨sent, fits, afterSent⟩ := bind_ok_iff.mp success
  obtain ⟨count, -, same⟩ := bind_ok_iff.mp afterSent
  cases same
  rw [sqliteI64_ok fits]

/-- Statistics a remote answer may bring: counts of this Device stay, a new row
starts at zero. -/
def StatsKept (before after : Table ContentKey QueryStats) : Prop :=
  ∀ key, (∀ stats, before.get key = some stats → ∃ kept, after.get key = some kept ∧
      kept.deviceQueryCount = stats.deviceQueryCount ∧
      kept.firstQueriedAt = stats.firstQueriedAt ∧ kept.lastQueriedAt = stats.lastQueriedAt) ∧
    (before.get key = none → ∀ stats, after.get key = some stats → stats.deviceQueryCount = 0)

theorem StatsKept.refl (table : Table ContentKey QueryStats) : StatsKept table table :=
  fun _ => ⟨fun stats stored => ⟨stats, stored, rfl, rfl, rfl⟩,
    fun absent stats stored => by rw [absent] at stored; cases stored⟩

theorem StatsKept.trans {first second third : Table ContentKey QueryStats}
    (left : StatsKept first second) (right : StatsKept second third) : StatsKept first third := by
  intro key
  refine ⟨?_, ?_⟩
  · intro stats stored
    obtain ⟨middle, here, count, start, last⟩ := (left key).1 stats stored
    obtain ⟨final, there, count', start', last'⟩ := (right key).1 middle here
    exact ⟨final, there, count'.trans count, start'.trans start, last'.trans last⟩
  · intro absent stats stored
    cases found : second.get key with
    | none => exact (right key).2 found stats stored
    | some middle =>
        have zero := (left key).2 absent middle found
        obtain ⟨final, there, count, -, -⟩ := (right key).1 middle found
        rw [stored] at there
        cases there
        rw [count, zero]

theorem StatsKept.put {table : Table ContentKey QueryStats} {key : ContentKey} {row : QueryStats}
    (kept : ∀ stats, table.get key = some stats → row.deviceQueryCount = stats.deviceQueryCount ∧
      row.firstQueriedAt = stats.firstQueriedAt ∧ row.lastQueriedAt = stats.lastQueriedAt)
    (zero : table.get key = none → row.deviceQueryCount = 0) :
    StatsKept table (table.put key row) := by
  intro other
  rw [Table.get_put]
  by_cases same : other = key
  · subst same
    simp only [↓reduceIte, Option.some.injEq, exists_eq_left', forall_eq']
    exact ⟨kept, zero⟩
  · simp only [same, ↓reduceIte]
    exact StatsKept.refl table other

theorem updateAggregate_kept {db next : ProfileDb} {key : ContentKey}
    {aggregate : AggregateQueryStats} {sentQueryCount : Option Nat} {now : Int}
    (success : updateAggregate db key aggregate sentQueryCount now = .ok next) :
    ∃ table, StatsKept db.queryStats table ∧ next = { db with queryStats := table } := by
  refine ⟨_, ?_, updateAggregate_ok success⟩
  refine StatsKept.put ?_ ?_
  · intro stats stored
    rw [stored]
    exact ⟨rfl, rfl, rfl⟩
  · intro absent
    rw [absent]
    rfl

theorem updateAggregateFromRecord_kept {db next : ProfileDb} {remote : FavoriteRecord} {now : Int}
    (success : updateAggregateFromRecord db remote now = .ok next) :
    ∃ table, StatsKept db.queryStats table ∧ next = { db with queryStats := table } := by
  unfold updateAggregateFromRecord at success
  split at success
  · cases success
    exact ⟨db.queryStats, .refl _, rfl⟩
  · obtain ⟨key, -, updated⟩ := bind_ok_iff.mp success
    exact updateAggregate_kept updated

/-- The record becomes the local row, whatever was there. -/
theorem writeRemoteFavorite_ok {db next : ProfileDb} {remote : FavoriteRecord} {now : Int}
    (success : writeRemoteFavorite db remote now = .ok next) :
    ∃ key table, remote.contentKey = key.toHex ∧ kindAllowed remote.favorite.kind ∧
      StatsKept db.queryStats table ∧
      next = { db with
        favorites := db.favorites.put key (remoteRow remote)
        queryStats := table } := by
  unfold writeRemoteFavorite at success
  obtain ⟨key, parsed, afterKey⟩ := bind_ok_iff.mp success
  obtain ⟨revision, -, afterRevision⟩ := bind_ok_iff.mp afterKey
  split at afterRevision
  · rename_i kind
    dsimp only at afterRevision
    obtain ⟨first, updated, afterUpdate⟩ := bind_ok_iff.mp afterRevision
    obtain ⟨table, kept, rfl⟩ := updateAggregateFromRecord_kept updated
    split at afterUpdate
    · cases afterUpdate
      exact ⟨key, table, parseContentKey_ok parsed, kind, kept, rfl⟩
    · rename_i missing
      obtain ⟨last, again, rfl⟩ := updateAggregateFromRecord_kept afterUpdate
      refine ⟨key, last, parseContentKey_ok parsed, kind, ?_, rfl⟩
      refine kept.trans (StatsKept.trans (StatsKept.put ?_ (fun _ => rfl)) again)
      intro stats stored
      simp [stored] at missing
  · cases afterRevision

/-- What one remote change does to the content it is about. -/
inductive Pulled (db next : ProfileDb) (record : FavoriteRecord) (key : ContentKey) (now : Int) :
    Prop
  | written (table : Table ContentKey QueryStats)
      (idle : db.syncOutbox.get (.favorite key) = none) (kept : StatsKept db.queryStats table)
      (changed : next = { db with
        favorites := db.favorites.put key (remoteRow record)
        queryStats := table })
  | converged (table : Table ContentKey QueryStats) (row : OutboxRow) (localValue : Favorite)
      (pending : db.syncOutbox.get (.favorite key) = some row)
      (found : localFavorite db key = .ok (some localValue))
      (reached : desiredConverged row.operation localValue record = true)
      (kept : StatsKept db.queryStats table)
      (changed : next = { db with
        favorites := db.favorites.put key (remoteRow record)
        queryStats := table
        syncOutbox := db.syncOutbox.delete (fun other _ => other = .favorite key) })
  | rebased (table : Table ContentKey QueryStats) (row : OutboxRow) (localValue : Favorite)
      (pending : db.syncOutbox.get (.favorite key) = some row)
      (found : localFavorite db key = .ok (some localValue))
      (apart : desiredConverged row.operation localValue record = false)
      (kept : StatsKept db.queryStats table)
      (changed : next = { rebase (setEntityRevision db key record.entityRevision) key
        record.entityRevision now with queryStats := table })

section Remote

variable [ContentTables]

theorem applyRemoteChange_ok {db next : ProfileDb} {change : SyncChange} {now : Int}
    (success : applyRemoteChange db change now = .ok next) :
    ∃ key : ContentKey, change.favorite.contentKey = key.toHex ∧
      validateRemote change.favorite = .ok () ∧ Pulled db next change.favorite key now := by
  unfold applyRemoteChange at success
  obtain ⟨⟨⟩, valid, afterValid⟩ := bind_ok_iff.mp success
  obtain ⟨key, parsed, afterKey⟩ := bind_ok_iff.mp afterValid
  have keyed := parseContentKey_ok parsed
  refine ⟨key, keyed, valid, ?_⟩
  have written : ∀ {last : ProfileDb}, writeRemoteFavorite db change.favorite now = .ok last →
      ∃ table, StatsKept db.queryStats table ∧ last = { db with
        favorites := db.favorites.put key (remoteRow change.favorite)
        queryStats := table } := by
    intro last stored
    obtain ⟨other, table, same, -, kept, equation⟩ := writeRemoteFavorite_ok stored
    obtain rfl : other = key := ContentKey.toHex_injective (same.symm.trans keyed)
    exact ⟨table, kept, equation⟩
  split at afterKey
  · rename_i row pending
    unfold applyRemotePending at afterKey
    obtain ⟨found, looked, rest⟩ := bind_ok_iff.mp afterKey
    cases found with
    | none => cases rest
    | some localValue =>
        dsimp only at rest
        split at rest
        · rename_i reached
          obtain ⟨last, stored, same⟩ := bind_ok_iff.mp rest
          cases same
          obtain ⟨table, kept, rfl⟩ := written stored
          exact .converged table row localValue pending looked reached kept rfl
        · rename_i apart
          obtain ⟨revision, fits, updated⟩ := bind_ok_iff.mp rest
          obtain rfl := sqliteI64_ok fits
          obtain ⟨table, kept, equation⟩ := updateAggregateFromRecord_kept updated
          exact .rebased table row localValue pending looked (by simpa using apart) kept equation
  · rename_i idle
    obtain ⟨table, kept, equation⟩ := written afterKey
    exact .written table idle kept equation

/-- The loop of `apply_remote_page`, for what each change keeps. -/
theorem applyRemoteLoop_induct {nextRevision : Nat} {now : Int}
    (keep : List SyncChange → ProfileDb → ProfileDb → Prop) (stop : ∀ db, keep [] db db)
    (turn : ∀ change rest db middle last (key : ContentKey),
      change.favorite.contentKey = key.toHex → validateRemote change.favorite = .ok () →
      Pulled db middle change.favorite key now →
      keep rest middle last → keep (change :: rest) db last) :
    ∀ (changes : List SyncChange) (db next : ProfileDb) (expected reached : Nat),
      applyRemoteLoop nextRevision now db expected changes = .ok (next, reached) →
      keep changes db next := by
  intro changes
  induction changes with
  | nil =>
      intro db next expected reached success
      cases success
      exact stop db
  | cons change rest ih =>
      intro db next expected reached success
      unfold applyRemoteLoop at success
      split at success
      · cases success
      · split at success
        · cases success
        · obtain ⟨middle, head, tail⟩ := bind_ok_iff.mp success
          obtain ⟨key, keyed, valid, pulled⟩ := applyRemoteChange_ok head
          exact turn change rest db middle next key keyed valid pulled
            (ih middle next change.revision reached tail)

theorem applyRemotePage_ok {db next : ProfileDb} {changes : List SyncChange} {nextRevision : Nat}
    {now : Int}
    (success : applyRemotePageBody changes nextRevision now db = .ok (next, ())) :
    ∃ last, applyRemoteLoop nextRevision now db db.profileMeta.lastServerRevision changes =
        .ok (last, nextRevision) ∧
      next = synchronizedAt (advanceCursor last nextRevision) now := by
  unfold applyRemotePageBody at success
  dsimp only at success
  split at success
  · cases success
  · obtain ⟨⟨last, reached⟩, looped, rest⟩ := bind_ok_iff.mp success
    dsimp only at rest
    split at rest
    · cases rest
    · rename_i same
      obtain ⟨revision, fits, equation⟩ := bind_ok_iff.mp rest
      obtain rfl := sqliteI64_ok fits
      cases equation
      obtain rfl : reached = revision := by simpa using same
      exact ⟨last, looped, rfl⟩

end Remote

/-- The tables after one acknowledged event. -/
theorem acknowledgeEvent_ok {db next : ProfileDb} {item : AcknowledgedEvent} {now : Int}
    (success : acknowledgeEvent db item now = .ok next) :
    item.acknowledgement.eventId = item.event.eventId.text ∧
      ∃ table, StatsKept db.queryStats table ∧
        next = deleteEvent { (match item.acknowledgement.entityRevision with
          | none => db
          | some revision => acknowledgeRevision db item.event revision) with
            queryStats := table } item.event.eventId := by
  unfold acknowledgeEvent at success
  split at success
  · cases success
  · rename_i named
    refine ⟨by simpa using named, ?_⟩
    obtain ⟨middle, entity, afterEntity⟩ := bind_ok_iff.mp success
    obtain ⟨last, aggregate, same⟩ := bind_ok_iff.mp afterEntity
    cases same
    have counted : ∃ table, StatsKept middle.queryStats table ∧
        last = { middle with queryStats := table } := by
      unfold acknowledgeAggregate at aggregate
      split at aggregate
      · cases aggregate
        exact ⟨middle.queryStats, .refl _, rfl⟩
      · exact updateAggregate_kept aggregate
    obtain ⟨table, kept, rfl⟩ := counted
    unfold acknowledgeEntity at entity
    cases answered : item.acknowledgement.entityRevision with
    | none =>
        rw [answered] at entity
        cases entity
        exact ⟨table, kept, rfl⟩
    | some revision =>
        rw [answered] at entity
        obtain ⟨value, fits, equation⟩ := bind_ok_iff.mp entity
        obtain rfl := sqliteI64_ok fits
        cases equation
        exact ⟨table, kept, rfl⟩

theorem acknowledgeLoop_induct {now : Int}
    (keep : List AcknowledgedEvent → ProfileDb → ProfileDb → Prop) (stop : ∀ db, keep [] db db)
    (turn : ∀ item rest db middle last, acknowledgeEvent db item now = .ok middle →
      keep rest middle last → keep (item :: rest) db last) :
    ∀ (items : List AcknowledgedEvent) (db next : ProfileDb),
      acknowledgeLoop now db items = .ok next → keep items db next := by
  intro items
  induction items with
  | nil =>
      intro db next success
      cases success
      exact stop db
  | cons item rest ih =>
      intro db next success
      unfold acknowledgeLoop at success
      obtain ⟨middle, head, tail⟩ := bind_ok_iff.mp success
      exact turn item rest db middle next head (ih middle next tail)

theorem acknowledgeBody_ok {db next : ProfileDb} {acknowledged : List AcknowledgedEvent}
    {now : Int} (success : acknowledgeBody acknowledged now db = .ok (next, ())) :
    ∃ last, acknowledgeLoop now db acknowledged = .ok last ∧ next = synchronizedAt last now := by
  unfold acknowledgeBody at success
  obtain ⟨last, looped, same⟩ := bind_ok_iff.mp success
  cases same
  exact ⟨last, looped, rfl⟩

/-- The three ways a conflict is resolved. -/
inductive Resolved (db next : ProfileDb) (event : OutboxEvent) (current : Option FavoriteRecord)
    (now : Int) : ConflictResolution → Prop
  | converged (record : FavoriteRecord) (key : ContentKey) (localValue : Favorite)
      (table : Table ContentKey QueryStats) (answer : current = some record)
      (keyed : record.contentKey = key.toHex)
      (found : localFavorite db event.contentKey = .ok (some localValue))
      (reached : desiredConverged event.operation localValue record = true)
      (kept : StatsKept db.queryStats table)
      (changed : next = { db with
        favorites := db.favorites.put key (remoteRow record)
        queryStats := table
        syncOutbox := db.syncOutbox.delete
          (fun other _ => other = .favorite event.contentKey) }) :
      Resolved db next event current now .converged
  | replayed (record : FavoriteRecord) (row : OutboxRow) (table : Table ContentKey QueryStats)
      (answer : current = some record)
      (pending : db.syncOutbox.get (.favorite event.contentKey) = some row)
      (first : row.conflictReplayCount = 0) (kept : StatsKept db.queryStats table)
      (changed : next = { prepareReplay
        (setEntityRevision db event.contentKey record.entityRevision) event.contentKey
        record.entityRevision now with queryStats := table }) :
      Resolved db next event current now .replayPrepared
  | manual (table : Table ContentKey QueryStats) (kept : StatsKept db.queryStats table)
      (changed : next = { markManualConflict db event.contentKey now with queryStats := table }) :
      Resolved db next event current now .manualRetryRequired

theorem resolveConflictBody_ok {event : OutboxEvent} {current : Option FavoriteRecord}
    {now : Int} {db next : ProfileDb} {resolution : ConflictResolution}
    (success : resolveConflictBody event current now db = .ok (next, resolution)) :
    isFavoriteOperation event.operation ∧ Resolved db next event current now resolution := by
  unfold resolveConflictBody at success
  split at success
  · rename_i favorite
    refine ⟨favorite, ?_⟩
    obtain ⟨found, looked, rest⟩ := bind_ok_iff.mp success
    cases found with
    | none => cases rest
    | some localValue =>
        dsimp only at rest
        split at rest
        · rename_i record reached
          obtain ⟨answer, converged⟩ := Option.filter_eq_some_iff.mp reached
          obtain ⟨last, stored, same⟩ := bind_ok_iff.mp rest
          cases same
          obtain ⟨key, table, keyed, -, kept, rfl⟩ := writeRemoteFavorite_ok stored
          exact .converged record key localValue table answer keyed looked converged kept rfl
        · unfold replayConflict at rest
          split at rest
          · cases rest
            exact .manual db.queryStats (.refl _) rfl
          · rename_i record missed
            split at rest
            · cases rest
            · rename_i row pending
              obtain ⟨counted, updated, afterUpdate⟩ := bind_ok_iff.mp rest
              obtain ⟨table, kept, rfl⟩ := updateAggregateFromRecord_kept updated
              split at afterUpdate
              · rename_i first
                obtain ⟨revision, fits, same⟩ := bind_ok_iff.mp afterUpdate
                obtain rfl := sqliteI64_ok fits
                cases same
                exact .replayed record row table rfl pending first kept rfl
              · cases afterUpdate
                exact .manual table kept rfl
  · cases success

end Lvos.Storage
