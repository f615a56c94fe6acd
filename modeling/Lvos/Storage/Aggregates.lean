import Lvos.Storage.Origins

set_option autoImplicit false

namespace Lvos.Storage

open Lvos.Core Lvos.Sync
open Relational (Table)
open Transaction (bind_ok_iff)

/-! What the answers of a server do to the cached aggregates, content by content. -/

/-- The row a content without one starts from. -/
def unqueried (first last : Int) : QueryStats := ⟨0, first, last, 0, 0, none, none, none⟩

/-- A statistics row before and after an answer about its content. -/
inductive Refreshed (aggregate : Option AggregateQueryStats) (sent : Nat) (now : Int)
    (before after : Option QueryStats) : Prop
  | kept (silent : aggregate = none) (same : after = before)
  | started (silent : aggregate = none) (absent : before = none) (first : Int)
      (stored : after = some (unqueried first first))
  | taken (value : AggregateQueryStats) (brought : aggregate = some value)
      (stored : after = some (aggregated
        (before.getD (unqueried value.firstQueriedAt value.lastQueriedAt)) value sent now))

/-- An answer about one content moves no other statistics row. -/
structure StatsMoved (key : ContentKey) (aggregate : Option AggregateQueryStats) (sent : Nat)
    (now : Int) (before after : Table ContentKey QueryStats) : Prop where
  apart : ∀ other, other ≠ key → after.get other = before.get other
  mine : Refreshed aggregate sent now (before.get key) (after.get key)

theorem StatsMoved.refl (key : ContentKey) (sent : Nat) (now : Int)
    (table : Table ContentKey QueryStats) : StatsMoved key none sent now table table :=
  ⟨fun _ _ => rfl, .kept rfl rfl⟩

section Updates

variable {db next : ProfileDb} {remote : FavoriteRecord} {now : Int}

theorem updateAggregate_moved {key : ContentKey} {aggregate : AggregateQueryStats}
    {sentQueryCount : Option Nat}
    (success : updateAggregate db key aggregate sentQueryCount now = .ok next) :
    StatsMoved key (some aggregate) (sentQueryCount.getD 0) now db.queryStats
      next.queryStats := by
  rw [updateAggregate_ok success]
  refine ⟨fun other apart => Table.get_put_of_ne _ _ apart, .taken aggregate rfl ?_⟩
  exact Table.get_put_self _ _ _

theorem updateAggregateFromRecord_moved {key : ContentKey}
    (keyed : remote.contentKey = key.toHex)
    (success : updateAggregateFromRecord db remote now = .ok next) :
    StatsMoved key remote.aggregateQueryStats 0 now db.queryStats next.queryStats := by
  unfold updateAggregateFromRecord at success
  split at success
  · rename_i silent
    cases success
    rw [silent]
    exact .refl key 0 now _
  · rename_i aggregate brought
    obtain ⟨other, parsed, updated⟩ := bind_ok_iff.mp success
    obtain rfl : other = key :=
      ContentKey.toHex_injective ((parseContentKey_ok parsed).symm.trans keyed)
    rw [brought]
    exact updateAggregate_moved updated

/-- A record without an aggregate leaves the statistics alone. -/
theorem updateAggregateFromRecord_cases
    (success : updateAggregateFromRecord db remote now = .ok next) :
    next.queryStats = db.queryStats ∨ remote.aggregateQueryStats ≠ none ∧
      ∃ key : ContentKey, remote.contentKey = key.toHex := by
  unfold updateAggregateFromRecord at success
  split at success
  · cases success
    exact Or.inl rfl
  · rename_i aggregate brought
    obtain ⟨key, parsed, -⟩ := bind_ok_iff.mp success
    exact Or.inr ⟨by simp [brought], key, parseContentKey_ok parsed⟩

theorem writeRemoteFavorite_moved {key : ContentKey} (keyed : remote.contentKey = key.toHex)
    (success : writeRemoteFavorite db remote now = .ok next) :
    StatsMoved key remote.aggregateQueryStats 0 now db.queryStats next.queryStats := by
  unfold writeRemoteFavorite at success
  obtain ⟨other, parsed, afterKey⟩ := bind_ok_iff.mp success
  obtain rfl : other = key :=
    ContentKey.toHex_injective ((parseContentKey_ok parsed).symm.trans keyed)
  obtain ⟨revision, -, afterRevision⟩ := bind_ok_iff.mp afterKey
  split at afterRevision
  · dsimp only at afterRevision
    obtain ⟨first, updated, afterUpdate⟩ := bind_ok_iff.mp afterRevision
    have moved := updateAggregateFromRecord_moved keyed updated
    split at afterUpdate
    · cases afterUpdate
      exact moved
    · -- Without an aggregate the missing row is started, and nothing is left to update.
      rename_i missing
      cases brought : remote.aggregateQueryStats with
      | some aggregate =>
          rw [brought] at moved
          cases moved.mine with
          | kept silent => cases silent
          | started silent => cases silent
          | taken value same stored =>
              rw [stored] at missing
              exact absurd rfl missing
      | none =>
          simp only [updateAggregateFromRecord, brought] at updated afterUpdate
          cases updated
          cases afterUpdate
          refine ⟨fun key apart => Table.get_put_of_ne _ _ apart, ?_⟩
          refine .started rfl ?_ _ (Table.get_put_self _ _ _)
          exact Option.not_isSome_iff_eq_none.mp missing
  · cases afterRevision

end Updates

section Answers

variable {db next : ProfileDb} {now : Int}

theorem applyRemoteChange_moved [ContentTables] {change : SyncChange} {key : ContentKey}
    (keyed : change.favorite.contentKey = key.toHex)
    (success : applyRemoteChange db change now = .ok next) :
    StatsMoved key change.favorite.aggregateQueryStats 0 now db.queryStats next.queryStats := by
  unfold applyRemoteChange at success
  obtain ⟨⟨⟩, -, afterValid⟩ := bind_ok_iff.mp success
  obtain ⟨other, parsed, afterKey⟩ := bind_ok_iff.mp afterValid
  split at afterKey
  · unfold applyRemotePending at afterKey
    obtain ⟨found, -, rest⟩ := bind_ok_iff.mp afterKey
    cases found with
    | none => cases rest
    | some localValue =>
        dsimp only at rest
        split at rest
        · obtain ⟨last, stored, same⟩ := bind_ok_iff.mp rest
          cases same
          have moved := writeRemoteFavorite_moved keyed stored
          exact moved
        · obtain ⟨revision, -, updated⟩ := bind_ok_iff.mp rest
          have moved := updateAggregateFromRecord_moved keyed updated
          exact moved
  · exact writeRemoteFavorite_moved keyed afterKey

theorem acknowledgeEvent_moved {item : AcknowledgedEvent}
    (success : acknowledgeEvent db item now = .ok next) :
    StatsMoved item.event.contentKey item.acknowledgement.aggregateQueryStats
      (item.sentQueryCount.getD 0) now db.queryStats next.queryStats := by
  unfold acknowledgeEvent at success
  split at success
  · cases success
  · obtain ⟨middle, entity, afterEntity⟩ := bind_ok_iff.mp success
    obtain ⟨last, aggregate, same⟩ := bind_ok_iff.mp afterEntity
    cases same
    have untouched : middle.queryStats = db.queryStats := by
      unfold acknowledgeEntity at entity
      split at entity
      · cases entity
        rfl
      · obtain ⟨revision, -, written⟩ := bind_ok_iff.mp entity
        cases written
        rfl
    rw [← untouched]
    unfold acknowledgeAggregate at aggregate
    split at aggregate
    · rename_i silent
      cases aggregate
      rw [silent]
      exact .refl _ _ now _
    · rename_i value brought
      rw [brought]
      have moved := updateAggregate_moved aggregate
      exact moved

/-- The statistics a resolved conflict moves are those of the record it used. -/
theorem resolveConflictBody_moved {event : OutboxEvent} {current : Option FavoriteRecord}
    {resolution : ConflictResolution}
    (success : resolveConflictBody event current now db = .ok (next, resolution)) :
    next.queryStats = db.queryStats ∨
      ∃ (remote : FavoriteRecord) (key : ContentKey), current = some remote ∧
        remote.contentKey = key.toHex ∧
        (resolution = .converged ∨ remote.aggregateQueryStats ≠ none) ∧
        StatsMoved key remote.aggregateQueryStats 0 now db.queryStats next.queryStats := by
  unfold resolveConflictBody at success
  split at success
  · obtain ⟨found, -, rest⟩ := bind_ok_iff.mp success
    cases found with
    | none => cases rest
    | some localValue =>
        dsimp only at rest
        split at rest
        · rename_i remote reached
          obtain ⟨last, stored, same⟩ := bind_ok_iff.mp rest
          cases same
          obtain ⟨key, -, keyed, -⟩ := writeRemoteFavorite_ok stored
          have moved := writeRemoteFavorite_moved keyed stored
          exact Or.inr ⟨remote, key, (Option.filter_eq_some_iff.mp reached).1, keyed, Or.inl rfl,
            moved⟩
        · unfold replayConflict at rest
          split at rest
          · cases rest
            exact Or.inl rfl
          · rename_i remote missed
            split at rest
            · cases rest
            · obtain ⟨counted, updated, afterUpdate⟩ := bind_ok_iff.mp rest
              have outcome : next.queryStats = counted.queryStats := by
                split at afterUpdate
                · obtain ⟨revision, -, same⟩ := bind_ok_iff.mp afterUpdate
                  cases same
                  rfl
                · cases afterUpdate
                  rfl
              rw [outcome]
              rcases updateAggregateFromRecord_cases updated with same | ⟨brought, key, keyed⟩
              · exact Or.inl same
              · exact Or.inr ⟨remote, key, rfl, keyed, Or.inr brought,
                  updateAggregateFromRecord_moved keyed updated⟩
  · cases success

end Answers

/-- The total a content is shown with. -/
def QueryStats.effectiveTotal (stats : QueryStats) : Nat :=
  if stats.serverSnapshotAt.isNone then stats.deviceQueryCount
  else min (stats.serverTotalQueryCount +
    (stats.deviceQueryCount - stats.lastSyncedDeviceQueryCount)) (u64Limit - 1)

/-- The server's aggregate, as a statistics row keeps it. -/
def QueryStats.cached (stats : QueryStats) : Option AggregateQueryStats :=
  match stats.serverFirstQueriedAt, stats.serverLastQueriedAt with
  | some first, some last => some ⟨stats.serverTotalQueryCount, first, last⟩
  | _, _ => none

/-- The cached aggregate of a content. -/
def cachedAggregate (db : ProfileDb) (key : ContentKey) : Option AggregateQueryStats :=
  (db.queryStats.get key).bind QueryStats.cached

/-- An answer replaces the cached aggregate by the one it brings, if it brings one. -/
theorem Refreshed.cached {aggregate : Option AggregateQueryStats} {sent : Nat} {now : Int}
    {before after : Option QueryStats} (refreshed : Refreshed aggregate sent now before after) :
    after.bind QueryStats.cached = aggregate.or (before.bind QueryStats.cached) := by
  cases refreshed with
  | kept silent same => rw [silent, same, Option.none_or]
  | started silent absent first stored => rw [silent, absent, stored]; rfl
  | taken value brought stored => rw [brought, stored]; rfl

/-- One answer about a content, with an aggregate that is allowed there. -/
def TableMove (allowed : ContentKey → AggregateQueryStats → Nat → Prop)
    (before after : Table ContentKey QueryStats) : Prop :=
  ∃ key aggregate sent now, (∀ value, aggregate = some value → allowed key value sent) ∧
    StatsMoved key aggregate sent now before after

/-- Answers one after the other. -/
abbrev TableMoves (allowed : ContentKey → AggregateQueryStats → Nat → Prop) :
    Table ContentKey QueryStats → Table ContentKey QueryStats → Prop :=
  Relation.ReflTransGen (TableMove allowed)

section Moves

variable {allowed : ContentKey → AggregateQueryStats → Nat → Prop}
  {before after : Table ContentKey QueryStats}

/-- What every allowed answer keeps of each row, answers keep. -/
theorem TableMoves.fits {fit : ContentKey → Option QueryStats → Prop}
    (turn : ∀ key aggregate sent now old new,
      (∀ value, aggregate = some value → allowed key value sent) →
      Refreshed aggregate sent now old new → fit key old → fit key new)
    (moves : TableMoves allowed before after) (holds : ∀ key, fit key (before.get key)) :
    ∀ key, fit key (after.get key) := by
  induction moves with
  | refl => exact holds
  | tail _ move ih =>
      intro key
      obtain ⟨about, aggregate, sent, now, brought, moved⟩ := move
      by_cases same : key = about
      · subst same
        exact turn key aggregate sent now _ _ brought moved.mine (ih key)
      · rw [moved.apart key same]
        exact ih key

/-- No answer takes back a count. -/
theorem TableMoves.counts (moves : TableMoves allowed before after) {key : ContentKey}
    {stats : QueryStats} (stored : before.get key = some stats) :
    ∃ later, after.get key = some later ∧ later.deviceQueryCount = stats.deviceQueryCount ∧
      stats.lastSyncedDeviceQueryCount ≤ later.lastSyncedDeviceQueryCount := by
  induction moves with
  | refl => exact ⟨stats, stored, rfl, Nat.le_refl _⟩
  | tail _ move ih =>
      obtain ⟨old, here, count, synced⟩ := ih
      obtain ⟨about, aggregate, sent, now, brought, moved⟩ := move
      by_cases same : key = about
      · subst same
        cases moved.mine with
        | kept silent unchanged => exact ⟨old, unchanged.trans here, count, synced⟩
        | started silent absent => rw [here] at absent; cases absent
        | taken value brought taken =>
            rw [here] at taken
            exact ⟨_, taken, count, Nat.le_trans synced (Nat.le_max_left _ _)⟩
      · exact ⟨old, (moved.apart key same).trans here, count, synced⟩

end Moves

/-- What a profile has reported, or may report, of a content: nothing before the content
enters the Favorite domain. -/
def reportedCount (db : ProfileDb) (key : ContentKey) : Nat :=
  if (db.favorites.get key).isSome then
    ((db.queryStats.get key).map QueryStats.deviceQueryCount).getD 0
  else 0

/-- How much of it the server is known to have. -/
def syncedCount (db : ProfileDb) (key : ContentKey) : Nat :=
  if (db.favorites.get key).isSome then
    ((db.queryStats.get key).map QueryStats.lastSyncedDeviceQueryCount).getD 0
  else 0

/-- Neither the Favorite domain nor the counts in it shrink. -/
structure Grows (db next : ProfileDb) : Prop where
  present : ∀ key, (db.favorites.get key).isSome → (next.favorites.get key).isSome
  stats : ∀ key stats, (db.favorites.get key).isSome → db.queryStats.get key = some stats →
    ∃ later, next.queryStats.get key = some later ∧
      stats.deviceQueryCount ≤ later.deviceQueryCount ∧
      stats.lastSyncedDeviceQueryCount ≤ later.lastSyncedDeviceQueryCount

section Growth

variable {db middle next : ProfileDb}

theorem Grows.refl (db : ProfileDb) : Grows db db :=
  ⟨fun _ here => here, fun _ stats _ stored => ⟨stats, stored, Nat.le_refl _, Nat.le_refl _⟩⟩

theorem Grows.trans (first : Grows db middle) (second : Grows middle next) : Grows db next := by
  refine ⟨fun key here => second.present key (first.present key here), ?_⟩
  intro key stats here stored
  obtain ⟨old, found, count, synced⟩ := first.stats key stats here stored
  obtain ⟨later, there, more, further⟩ := second.stats key old (first.present key here) found
  exact ⟨later, there, Nat.le_trans count more, Nat.le_trans synced further⟩

theorem Grows.reported (grows : Grows db next) (key : ContentKey) :
    reportedCount db key ≤ reportedCount next key := by
  unfold reportedCount
  by_cases here : (db.favorites.get key).isSome
  · rw [if_pos here, if_pos (grows.present key here)]
    cases stored : db.queryStats.get key with
    | none => exact Nat.zero_le _
    | some stats =>
        obtain ⟨later, there, count, -⟩ := grows.stats key stats here stored
        rw [there]
        exact count
  · rw [if_neg here]
    exact Nat.zero_le _

theorem Grows.synced (grows : Grows db next) (key : ContentKey) :
    syncedCount db key ≤ syncedCount next key := by
  unfold syncedCount
  by_cases here : (db.favorites.get key).isSome
  · rw [if_pos here, if_pos (grows.present key here)]
    cases stored : db.queryStats.get key with
    | none => exact Nat.zero_le _
    | some stats =>
        obtain ⟨later, there, -, synced⟩ := grows.stats key stats here stored
        rw [there]
        exact synced
  · rw [if_neg here]
    exact Nat.zero_le _

/-- An answer whose statistics are allowed. -/
structure Taken (allowed : ContentKey → AggregateQueryStats → Nat → Prop) (db next : ProfileDb) :
    Prop where
  deviceId : next.profileMeta.deviceId = db.profileMeta.deviceId
  grows : Grows db next
  moves : TableMoves allowed db.queryStats next.queryStats

variable {allowed : ContentKey → AggregateQueryStats → Nat → Prop}

theorem Taken.of_moves (deviceId : next.profileMeta.deviceId = db.profileMeta.deviceId)
    (present : ∀ key, (db.favorites.get key).isSome →
      (next.favorites.get key).isSome)
    (moves : TableMoves allowed db.queryStats next.queryStats) : Taken allowed db next := by
  refine ⟨deviceId, ⟨present, ?_⟩, moves⟩
  intro key stats _ stored
  obtain ⟨later, there, count, synced⟩ := moves.counts stored
  exact ⟨later, there, Nat.le_of_eq count.symm, synced⟩

theorem Taken.congr {last : ProfileDb} (taken : Taken allowed db next)
    (deviceId : last.profileMeta.deviceId = next.profileMeta.deviceId)
    (favorites : last.favorites = next.favorites) (stats : last.queryStats = next.queryStats) :
    Taken allowed db last := by
  refine .of_moves (deviceId.trans taken.deviceId) (fun key here => ?_) ?_
  · rw [favorites]
    exact taken.grows.present key here
  · rw [stats]
    exact taken.moves

theorem Taken.refl (allowed : ContentKey → AggregateQueryStats → Nat → Prop) (db : ProfileDb) :
    Taken allowed db db := ⟨rfl, .refl db, .refl⟩

theorem Taken.trans (first : Taken allowed db middle) (second : Taken allowed middle next) :
    Taken allowed db next :=
  ⟨second.deviceId.trans first.deviceId, first.grows.trans second.grows,
    first.moves.trans second.moves⟩

theorem setEntityRevision_present (db : ProfileDb) (target : ContentKey) (revision : Nat)
    {key : ContentKey} (here : (db.favorites.get key).isSome) :
    ((setEntityRevision db target revision).favorites.get key).isSome := by
  rw [setEntityRevision_get]
  split
  · rw [Option.isSome_map]
    exact here
  · exact here

theorem acknowledgeEvent_profileMeta {item : AcknowledgedEvent} {now : Int}
    (success : acknowledgeEvent db item now = .ok next) : next.profileMeta = db.profileMeta := by
  obtain ⟨-, table, -, written⟩ := acknowledgeEvent_ok success
  rw [written]
  unfold deleteEvent
  dsimp only
  split
  · rfl
  · rfl

theorem acknowledgeEvents_cursor (items : List AcknowledgedEvent) (now : Int) (db : ProfileDb) :
    (acknowledgeEvents db items now).1.profileMeta.lastServerRevision =
      db.profileMeta.lastServerRevision := by
  rcases Transaction.atomically_cases (acknowledgeBody items now) db with
    same | ⟨next, ⟨⟩, success, committed⟩
  · rw [show (acknowledgeEvents db items now).1 = db from same]
  · rw [show (acknowledgeEvents db items now).1 = next from congrArg Prod.fst committed]
    obtain ⟨last, looped, rfl⟩ := acknowledgeBody_ok success
    exact acknowledgeLoop_induct
      (fun _ db last => last.profileMeta.lastServerRevision = db.profileMeta.lastServerRevision)
      (fun _ => rfl) (fun item rest db middle last head tail => by
        rw [tail, acknowledgeEvent_profileMeta head]) items db last looped

theorem acknowledgeEvent_taken {item : AcknowledgedEvent} {now : Int}
    (brought : ∀ value, item.acknowledgement.aggregateQueryStats = some value →
      allowed item.event.contentKey value (item.sentQueryCount.getD 0))
    (success : acknowledgeEvent db item now = .ok next) : Taken allowed db next := by
  have moved := acknowledgeEvent_moved success
  have label := acknowledgeEvent_profileMeta success
  obtain ⟨-, table, -, written⟩ := acknowledgeEvent_ok success
  refine .of_moves (by rw [label]) ?_ (.single ⟨_, _, _, now, brought, moved⟩)
  rw [written]
  intro key here
  show Option.isSome (Table.get (ProfileDb.favorites (deleteEvent _ _)) key) = true
  unfold deleteEvent
  dsimp only
  split
  · exact here
  · exact setEntityRevision_present db _ _ here

theorem acknowledgeEvents_taken {items : List AcknowledgedEvent} (now : Int) (db : ProfileDb)
    (brought : ∀ item ∈ items, ∀ value, item.acknowledgement.aggregateQueryStats = some value →
      allowed item.event.contentKey value (item.sentQueryCount.getD 0)) :
    Taken allowed db (acknowledgeEvents db items now).1 := by
  refine Transaction.atomically_keeps (acknowledgeBody items now) db (.refl allowed db) ?_
  rintro next ⟨⟩ success
  obtain ⟨last, looped, rfl⟩ := acknowledgeBody_ok success
  have looped := acknowledgeLoop_induct (fun items db next =>
      (∀ item ∈ items, ∀ value, item.acknowledgement.aggregateQueryStats = some value →
        allowed item.event.contentKey value (item.sentQueryCount.getD 0)) →
      Taken allowed db next) (fun db _ => .refl allowed db)
    (fun item rest db middle last head tail brought =>
      (acknowledgeEvent_taken (brought item List.mem_cons_self) head).trans
        (tail (fun other member => brought other (List.mem_cons_of_mem item member))))
    items db last looped brought
  exact looped.congr rfl rfl rfl

theorem resolveConflict_profileMeta (event : OutboxEvent) (current : Option FavoriteRecord)
    (now : Int) (db : ProfileDb) :
    (resolveConflict db event current now).1.profileMeta.deviceId = db.profileMeta.deviceId ∧
      (resolveConflict db event current now).1.profileMeta.lastServerRevision =
        db.profileMeta.lastServerRevision := by
  rcases Transaction.atomically_cases (resolveConflictBody event current now) db with
    same | ⟨next, resolution, success, committed⟩
  · rw [show (resolveConflict db event current now).1 = db from same]
    exact ⟨rfl, rfl⟩
  · rw [show (resolveConflict db event current now).1 = next from congrArg Prod.fst committed]
    cases (resolveConflictBody_ok success).2 with
    | converged record other localValue table answer keyed found reached kept changed =>
        rw [changed]
        exact ⟨rfl, rfl⟩
    | replayed record row table answer pending first kept changed =>
        rw [changed]
        exact ⟨rfl, rfl⟩
    | manual table kept changed =>
        rw [changed]
        exact ⟨rfl, rfl⟩

theorem resolveConflict_taken (event : OutboxEvent) (current : Option FavoriteRecord) (now : Int)
    (db : ProfileDb)
    (brought : ∀ record key value, current = some record → record.contentKey = key.toHex →
      record.aggregateQueryStats = some value → allowed key value 0) :
    Taken allowed db (resolveConflict db event current now).1 := by
  have label := (resolveConflict_profileMeta event current now db).1
  rcases Transaction.atomically_cases (resolveConflictBody event current now) db with
    same | ⟨next, resolution, success, committed⟩
  · rw [show (resolveConflict db event current now).1 = db from same]
    exact .refl allowed db
  · have final : (resolveConflict db event current now).1 = next := congrArg Prod.fst committed
    rw [final] at label ⊢
    refine .of_moves label ?_ ?_
    · intro key here
      cases (resolveConflictBody_ok success).2 with
      | converged record other localValue table answer keyed found reached kept changed =>
          rw [changed]
          exact Table.isSome_get_put _ other _ here
      | replayed record row table answer pending first kept changed =>
          rw [changed]
          exact setEntityRevision_present db _ _ here
      | manual table kept changed =>
          rw [changed]
          exact here
    · rcases resolveConflictBody_moved success with same | ⟨record, key, answer, keyed, -, moved⟩
      · rw [same]
      · exact .single ⟨key, _, 0, now, fun value here => brought record key value answer keyed here,
          moved⟩

theorem applyRemoteChange_taken [ContentTables] {change : SyncChange} {now : Int}
    (brought : ∀ key value, change.favorite.contentKey = key.toHex →
      change.favorite.aggregateQueryStats = some value → allowed key value 0)
    (success : applyRemoteChange db change now = .ok next) : Taken allowed db next := by
  obtain ⟨key, keyed, -, pulled⟩ := applyRemoteChange_ok success
  refine .of_moves (by rw [pulled.profileMeta]) ?_ (.single ⟨key, _, 0, now,
    fun value here => brought key value keyed here, applyRemoteChange_moved keyed success⟩)
  intro other here
  cases pulled with
  | written table idle kept changed =>
      rw [changed]
      exact Table.isSome_get_put _ key _ here
  | converged table row localValue pending found reached kept changed =>
      rw [changed]
      exact Table.isSome_get_put _ key _ here
  | rebased table row localValue pending found apart kept changed =>
      rw [changed]
      exact setEntityRevision_present db key _ here

/-- The loop of `apply_remote_page`, change by change. -/
theorem applyRemoteLoop_turns [ContentTables] {nextRevision : Nat} {now : Int}
    (keep : List SyncChange → ProfileDb → ProfileDb → Prop) (stop : ∀ db, keep [] db db)
    (turn : ∀ change rest db middle last, applyRemoteChange db change now = .ok middle →
      keep rest middle last → keep (change :: rest) db last) :
    ∀ (changes : List SyncChange) (db next : ProfileDb) (expected reached : Nat),
      applyRemoteLoop nextRevision now db expected changes = .ok (next, reached) →
      keep changes db next := by
  intro changes
  induction changes with
  | nil =>
      intro db next expected reached success
      cases success
      exact stop db
  | cons change rest ih =>
      intro db next expected reached success
      unfold applyRemoteLoop at success
      split at success
      · cases success
      · split at success
        · cases success
        · obtain ⟨middle, head, tail⟩ := bind_ok_iff.mp success
          exact turn change rest db middle next head (ih middle next _ reached tail)

theorem applyRemotePage_taken [ContentTables] {changes : List SyncChange} (nextRevision : Nat)
    (now : Int) (db : ProfileDb)
    (brought : ∀ change ∈ changes, ∀ key value, change.favorite.contentKey = key.toHex →
      change.favorite.aggregateQueryStats = some value → allowed key value 0) :
    Taken allowed db (applyRemotePage db changes nextRevision now).1 := by
  refine Transaction.atomically_keeps (applyRemotePageBody changes nextRevision now) db
    (.refl allowed db) ?_
  rintro next ⟨⟩ success
  obtain ⟨last, looped, rfl⟩ := applyRemotePage_ok success
  have looped := applyRemoteLoop_turns (fun changes db next =>
      (∀ change ∈ changes, ∀ (key : ContentKey) value, change.favorite.contentKey = key.toHex →
        change.favorite.aggregateQueryStats = some value → allowed key value 0) →
      Taken allowed db next) (fun db _ => .refl allowed db)
    (fun change rest db middle last head tail brought =>
      (applyRemoteChange_taken (brought change List.mem_cons_self) head).trans
        (tail (fun other member key value =>
          brought other (List.mem_cons_of_mem change member) key value)))
    changes db last _ _ looped brought
  exact looped.congr rfl rfl rfl

end Growth

section Local

variable {input : Input} {issued : List Uuid} {db next : ProfileDb}

theorem countQuery_grows {stats later : QueryStats} {now : Int}
    (count : countQuery (some stats) now = .ok later) :
    stats.deviceQueryCount ≤ later.deviceQueryCount ∧
      stats.lastSyncedDeviceQueryCount ≤ later.lastSyncedDeviceQueryCount := by
  simp only [countQuery] at count
  split at count
  · cases count
    exact ⟨Nat.le_succ _, Nat.le_refl _⟩
  · cases count

/-- A row of the Favorite domain outlives every write of the user. -/
theorem LocalMove.grows (move : LocalMove input db next) (indexed : Indexed db) :
    Grows db next := by
  refine ⟨fun key here => (move.keyMove indexed key).present here, ?_⟩
  intro key stats here stored
  have same : ∀ {table : Table ContentKey QueryStats}, table.get key = some stats →
      ∃ later, table.get key = some later ∧ stats.deviceQueryCount ≤ later.deviceQueryCount ∧
        stats.lastSyncedDeviceQueryCount ≤ later.lastSyncedDeviceQueryCount :=
    fun found => ⟨stats, found, Nat.le_refl _, Nat.le_refl _⟩
  have counted : ∀ {entry : HistoryEntry} {later : QueryStats},
      countQuery (db.queryStats.get entry.content.contentKey) entry.lastQueriedAt = .ok later →
      ∃ found, (db.queryStats.put entry.content.contentKey later).get key = some found ∧
        stats.deviceQueryCount ≤ found.deviceQueryCount ∧
        stats.lastSyncedDeviceQueryCount ≤ found.lastSyncedDeviceQueryCount := by
    intro entry later count
    rw [Table.get_put]
    split
    · rename_i equal
      rw [← equal, stored] at count
      obtain ⟨more, synced⟩ := countQuery_grows count
      exact ⟨later, rfl, more, synced⟩
    · exact same stored
  cases move with
  | history entry given changed => rw [changed]; exact same stored
  | baseline entry given changed =>
      rw [changed]
      unfold insertHistoryWithZeroStats
      dsimp only [upsertHistory]
      split
      · exact same stored
      · rename_i missing
        refine same ?_
        rw [Table.get_put_of_ne _ _ ?_]
        · exact stored
        · intro equal
          rw [← equal, stored] at missing
          cases missing
  | counted entry later given count outside changed => rw [changed]; exact counted count
  | reported entry later eventId row given new count inside unused changed =>
      rw [changed]
      exact counted count
  | favorited other now eventId entry later new known there inactive unused changed =>
      rw [changed]
      exact same stored
  | archived favorite given absent deleted changed => rw [changed]; exact same stored
  | folded other now row there active unsynced changed => rw [changed]; exact same stored
  | withdrawn other now eventId row later new there active synced unused changed =>
      rw [changed]
      exact same stored
  | cleared changed =>
      rw [changed]
      refine same ?_
      unfold clearHistory
      dsimp only
      rw [Table.get_delete, stored, Option.filter_some, if_pos]
      simpa [Option.isNone_iff_eq_none, Option.isSome_iff_ne_none] using here

theorem countQuery_cached {existing : Option QueryStats} {now : Int} {later : QueryStats}
    (count : countQuery existing now = .ok later) :
    later.cached = existing.bind QueryStats.cached := by
  cases existing with
  | none =>
      cases count
      rfl
  | some stats =>
      simp only [countQuery] at count
      split at count
      · cases count
        rfl
      · cases count

/-- The user's writes leave the cached aggregates alone; clearing the history drops those
outside the Favorite domain. -/
theorem LocalMove.cached (move : LocalMove input db next) (key : ContentKey) :
    cachedAggregate next key = cachedAggregate db key ∨
      (cachedAggregate next key = none ∧ db.favorites.get key = none) := by
  have counted : ∀ {entry : HistoryEntry} {later : QueryStats},
      countQuery (db.queryStats.get entry.content.contentKey) entry.lastQueriedAt = .ok later →
      ((db.queryStats.put entry.content.contentKey later).get key).bind QueryStats.cached =
        cachedAggregate db key := by
    intro entry later count
    rw [Table.get_put]
    split
    · rename_i equal
      rw [equal]
      exact countQuery_cached count
    · rfl
  cases move with
  | history entry given changed => rw [changed]; exact Or.inl rfl
  | baseline entry given changed =>
      refine Or.inl ?_
      rw [changed]
      unfold insertHistoryWithZeroStats cachedAggregate
      dsimp only [upsertHistory]
      split
      · rfl
      · rename_i missing
        rw [Table.get_put]
        split
        · rename_i equal
          rw [← equal] at missing
          rw [missing]
          rfl
        · rfl
  | counted entry later given count outside changed =>
      rw [changed]
      exact Or.inl (counted count)
  | reported entry later eventId row given new count inside unused changed =>
      rw [changed]
      exact Or.inl (counted count)
  | favorited other now eventId entry later new known there inactive unused changed =>
      rw [changed]
      exact Or.inl rfl
  | archived favorite given absent deleted changed => rw [changed]; exact Or.inl rfl
  | folded other now row there active unsynced changed => rw [changed]; exact Or.inl rfl
  | withdrawn other now eventId row later new there active synced unused changed =>
      rw [changed]
      exact Or.inl rfl
  | cleared changed =>
      rw [changed]
      unfold clearHistory cachedAggregate
      dsimp only
      rw [Table.get_delete]
      cases stored : db.queryStats.get key with
      | none => exact Or.inl rfl
      | some stats =>
          rw [Option.filter_some]
          split
          · exact Or.inl rfl
          · rename_i dropped
            exact Or.inr ⟨rfl, by simpa using dropped⟩

end Local

end Lvos.Storage
